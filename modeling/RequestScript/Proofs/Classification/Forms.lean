import RequestScript.Proofs.Classification

/-!
# Statements in their written forms

Every kind of statement has a written form: a word, a text between quotes, or a name and a value
with an equals sign between them.  Blanks of any kind and any number may stand around and between
its parts.  A form is read back as the statement that it was written for.

Main results:

- Definition {lit}`Form.line`: a form with its blanks.
- Theorem {lit}`quotedPart_eq`: the text between quotes.
- Theorem {lit}`ofText_blanks_append`: blanks in front of a line.
- Theorem {lit}`ofText_line`: what is read back.
-/

namespace RequestScript

open Text

/-! ## Quotes -/

namespace Literal

/-- No quote is blank. -/
theorem isBlank_of_isQuote {c : Char} (h : isQuote c = true) : isBlank c = false := by
  have hc : c = '\'' ∨ c = '"' := by simpa [isQuote] using h
  rcases hc with rfl | rfl <;> decide

/-- What stands before the last quote is what stands before one with no quote behind it. -/
theorem beforeLast_append {quote : Char} {back : Text} (hback : quote ∉ back) (value : Text) :
    beforeLast quote (value ++ quote :: back) = some value := by
  have hreverse : (value ++ quote :: back).reverse = back.reverse ++ quote :: value.reverse := by
    simp
  have hnone : quote ∉ back.reverse := fun hmem => hback (List.mem_reverse.mp hmem)
  rw [beforeLast, hreverse, splitAtFirst_append hnone, Option.map_some, List.reverse_reverse]

/-- A text stands between quotes that count: single ones, or double ones where there is no single
one. -/
theorem quotedPart_eq {quote : Char} {front value back : Text}
    (hcounts : quote = '\'' ∨ quote = '"' ∧ '\'' ∉ front ++ quote :: (value ++ quote :: back))
    (hfront : quote ∉ front) (hback : quote ∉ back) :
    quotedPart (front ++ quote :: (value ++ quote :: back)) = value := by
  have hquote : (if (front ++ quote :: (value ++ quote :: back)).contains '\'' then '\''
      else '"') = quote := by
    rcases hcounts with rfl | ⟨rfl, hnone⟩
    · rw [if_pos (by simp)]
    · rw [if_neg (by simpa using hnone)]
  rw [quotedPart, hquote, splitAtFirst_append hfront]
  dsimp only
  rw [beforeLast_append hback, Option.getD_some]

/-- Blanks in front hold no quote. -/
theorem quotedPart_blanks_append {front : Text} (h : ∀ c ∈ front, isBlank c = true)
    (text : Text) : quotedPart (front ++ text) = quotedPart text := by
  have hnone : ∀ quote, isQuote quote = true → quote ∉ front :=
    fun quote hquote => not_mem_of_blanks h (isBlank_of_isQuote hquote)
  have hsame : (front ++ text).contains '\'' = text.contains '\'' := by
    have hsingle := hnone '\'' rfl
    simp [hsingle]
  have hquote : isQuote (if text.contains '\'' then '\'' else '"') = true := by
    split <;> rfl
  rw [quotedPart, quotedPart, hsame, splitAtFirst_append_left (hnone _ hquote)]

end Literal

/-- No leader is spelled with a quote. -/
theorem Leader.not_mem_spelling_of_isQuote (leader : Leader) {c : Char}
    (h : Literal.isQuote c = true) : c ∉ leader.spelling := by
  have hnone : ∀ d ∈ leader.spelling, Literal.isQuote d = false := by
    cases leader <;> decide
  intro hmem
  rw [hnone c hmem] at h
  cases h

/-- No keyword is spelled with a quote. -/
theorem Keyword.not_mem_spelling_of_isQuote (keyword : Keyword) {c : Char}
    (h : Literal.isQuote c = true) : c ∉ keyword.spelling := by
  have hnone : ∀ d ∈ keyword.spelling, Literal.isQuote d = false := by
    cases keyword <;> decide
  intro hmem
  rw [hnone c hmem] at h
  cases h

namespace Statement

/-! ## Blanks in front of a line -/

section Front

variable {front : Text} (hfront : ∀ c ∈ front, isBlank c = true)
include hfront

/-- Blanks in front of a line make no difference to its operand. -/
theorem operand_blanks_append (text : Text) : operand (front ++ text) = operand text := by
  rw [operand, operand, words_blanks_append hfront]

/-- Blanks in front of a line stay in front of its first equals sign. -/
theorem splitAtFirst_blanks_append (text : Text) :
    splitAtFirst '=' (front ++ text) =
      (front ++ (splitAtFirst '=' text).1, (splitAtFirst '=' text).2) :=
  splitAtFirst_append_left (equals_not_mem_of_blanks hfront) text

/-- Every keyword reads the same operands with blanks in front. -/
theorem ofParts_blanks_append (leader : Leader) (keyword : Keyword) (text written : Text) :
    ofParts leader keyword (front ++ text) written = ofParts leader keyword text written := by
  have hassignment : assignment (front ++ text) = assignment text := by
    rw [assignment, assignment, splitAtFirst_blanks_append hfront]
    dsimp only
    rw [operand_blanks_append hfront]
  have hfull : fullAssignment (front ++ text) = fullAssignment text := by
    rw [fullAssignment, fullAssignment, splitAtFirst_blanks_append hfront]
    rcases splitAtFirst '=' text with ⟨left, _ | right⟩
    · rfl
    · dsimp only
      rw [operand_blanks_append hfront]
  cases keyword with
  | define => rw [ofParts, ofParts, hassignment]
  | url => rw [ofParts, ofParts, Literal.quotedPart_blanks_append hfront]
  | path => rw [ofParts, ofParts, Literal.quotedPart_blanks_append hfront]
  | header => rw [ofParts, ofParts, hfull]
  | method => rw [ofParts, ofParts, operand_blanks_append hfront]
  | param => rw [ofParts, ofParts, hfull]
  | request => rw [ofParts, ofParts]

/-- Blanks in front of a line that is no boundary do not make it one. -/
theorem isBoundary_blanks_append {text : Text} (h : isBoundary text = false) :
    isBoundary (front ++ text) = false := by
  cases front with
  | nil => exact h
  | cons c front =>
    have hc : isBlank c = true := hfront c List.mem_cons_self
    have hletter : ('S' == c) = false ∧ ('@' == c) = false := by
      constructor <;> rw [beq_eq_false_iff_ne] <;> rintro rfl <;> exact absurd hc (by decide)
    simp [isBoundary, boundaryMarks, List.isPrefixOf, hletter]

/-- Blanks in front of a line that starts no scenario make no difference. -/
theorem ofText_blanks_append {text : Text} (h : isBoundary text = false) (written : Text) :
    ofText (front ++ text) written = ofText text written := by
  have hopening : opening? (front ++ text) = opening? text := by
    rw [opening?, opening?, words_blanks_append hfront]
  simp only [ofText, isBoundary_blanks_append hfront h, h, Bool.false_eq_true, if_false, hopening,
    ofParts_blanks_append hfront]

end Front

/-! ## Forms -/

/-- The blanks in front of a statement, between its leader, its keyword and its operand, on both
sides of its equals sign, and behind it. -/
structure Spacing where
  front : Text
  gap : Text
  between : Text
  left : Text
  right : Text
  back : Text
  front_blank : ∀ c ∈ front, isBlank c = true
  gap_isGap : IsGap gap
  between_isGap : IsGap between
  left_blank : ∀ c ∈ left, isBlank c = true
  right_blank : ∀ c ∈ right, isBlank c = true
  back_blank : ∀ c ∈ back, isBlank c = true

/-- A kind of statement with the texts that are written for it.  An address and a path are written
between two quotes of one kind. -/
inductive Form where
  | define (name value : Text)
  | url (quote : Char) (url : Text)
  | path (quote : Char) (path : Text)
  | header (name value : Text)
  | method (word : Text)
  | param (name value : Text)
  | request (name : Text)
deriving DecidableEq, Repr

namespace Form

def keyword : Form → Keyword
  | .define .. => .define
  | .url .. => .url
  | .path .. => .path
  | .header .. => .header
  | .method .. => .method
  | .param .. => .param
  | .request .. => .request

/-- What stands behind the keyword. -/
def operand (spacing : Spacing) : Form → Text
  | .define name value | .header name value | .param name value =>
    name ++ (spacing.left ++ '=' :: (spacing.right ++ value))
  | .url quote text | .path quote text => quote :: (text ++ [quote])
  | .method word | .request word => word

/-- A form with its blanks. -/
def line (leader : Leader) (spacing : Spacing) (form : Form) : Text :=
  spacing.front ++ headed leader spacing.gap form.keyword
    (spacing.between ++ (form.operand spacing ++ spacing.back))

/-- The statement that a form is written for. -/
def statement (leader : Leader) : Form → Statement
  | .define name value => .definition leader name (trim value)
  | .url _ text => .url leader text
  | .path _ text => .path leader text
  | .header name value => .header leader name (without Literal.isQuote (trim value))
  | .method word => .method leader (upper word)
  | .param name value => .param leader name (without Literal.isQuote (trim value))
  | .request name => .request leader name

/-- A text fits between quotes: any text between single ones, and a text without a single quote
between double ones. -/
def Fits (quote : Char) (text : Text) : Prop :=
  quote = '\'' ∨ quote = '"' ∧ '\'' ∉ text

/-- The texts of a form fit their places. -/
def Proper : Form → Prop
  | .define name _ | .header name _ | .param name _ => IsName name
  | .url quote text | .path quote text => Fits quote text
  | .method word | .request word => IsWord word

instance (quote : Char) (text : Text) : Decidable (Fits quote text) :=
  inferInstanceAs (Decidable (_ ∨ _))

/-! ## What is read back -/

section Reading

variable (leader : Leader) (spacing : Spacing)

/-- A form is read by its keyword. -/
theorem ofText_line_eq {form : Form} (hadmits : form.keyword.admits leader = true)
    (written : Text) :
    ofText (form.line leader spacing) written =
      (ofParts leader form.keyword (headed leader spacing.gap form.keyword
        (spacing.between ++ (form.operand spacing ++ spacing.back))) written).map some := by
  rw [line, ofText_blanks_append spacing.front_blank isBoundary_headed,
    ofText_headed hadmits spacing.gap_isGap (spacing.between_isGap.detached_append _)]

section Assigned

variable (keyword : Keyword) {name : Text} (hname : IsName name) (value : Text)
include hname

/-- An assignment is a name, an equals sign and a value. -/
theorem assigned_eq :
    spacing.between ++ (name ++ (spacing.left ++ '=' :: (spacing.right ++ value)) ++
        spacing.back) =
      (spacing.between ++ (name ++ spacing.left)) ++
        '=' :: (spacing.right ++ (value ++ spacing.back)) ∧
      '=' ∉ spacing.between ++ (name ++ spacing.left) ∧
      Statement.operand (headed leader spacing.gap keyword
        (spacing.between ++ (name ++ spacing.left))) = .ok name := by
  refine ⟨by simp, ?_, ?_⟩
  · simp only [List.mem_append, not_or]
    exact ⟨equals_not_mem_of_blanks spacing.between_isGap.2, hname.2,
      equals_not_mem_of_blanks spacing.left_blank⟩
  · exact operand_headed_append spacing.gap_isGap spacing.between_isGap hname.1
      (detached_of_blanks spacing.left_blank)

/-- An assignment is taken apart whatever blanks stand between its parts. -/
theorem assignment_line :
    assignment (headed leader spacing.gap keyword
        (spacing.between ++ (name ++ (spacing.left ++ '=' :: (spacing.right ++ value)) ++
          spacing.back))) =
      .ok (name, some (spacing.right ++ (value ++ spacing.back))) := by
  rcases assigned_eq leader spacing keyword hname value with ⟨hsplit, hleft, hoperand⟩
  rw [hsplit, assignment_headed spacing.gap_isGap hleft, hoperand]
  rfl

/-- An assignment in this form is a full one. -/
theorem fullAssignment_line :
    fullAssignment (headed leader spacing.gap keyword
        (spacing.between ++ (name ++ (spacing.left ++ '=' :: (spacing.right ++ value)) ++
          spacing.back))) =
      .ok (name, spacing.right ++ (value ++ spacing.back)) := by
  rcases assigned_eq leader spacing keyword hname value with ⟨hsplit, hleft, hoperand⟩
  rw [hsplit, fullAssignment_headed spacing.gap_isGap hleft, hoperand]
  rfl

end Assigned

/-- The value of an assignment loses its blanks and then its quotes. -/
theorem removeQuotes_assigned (value : Text) :
    Literal.removeQuotes (spacing.right ++ (value ++ spacing.back)) =
      without Literal.isQuote (trim value) := by
  rw [Literal.removeQuotes, trim_blanks_append spacing.right_blank spacing.back_blank]

/-- A text between quotes is found, since nothing in front of it and behind it is a quote. -/
theorem quotedPart_line (keyword : Keyword) {quote : Char} {text : Text} (h : Fits quote text) :
    Literal.quotedPart (headed leader spacing.gap keyword
      (spacing.between ++ (quote :: (text ++ [quote]) ++ spacing.back))) = text := by
  have hfront : ∀ mark, Literal.isQuote mark = true →
      mark ∉ leader.spelling ++ (spacing.gap ++ (keyword.spelling ++ spacing.between)) := by
    intro mark hmark
    have hblank := Literal.isBlank_of_isQuote hmark
    simp only [List.mem_append, not_or]
    exact ⟨leader.not_mem_spelling_of_isQuote hmark, not_mem_of_blanks spacing.gap_isGap.2 hblank,
      keyword.not_mem_spelling_of_isQuote hmark,
      not_mem_of_blanks spacing.between_isGap.2 hblank⟩
  have hback : ∀ mark, Literal.isQuote mark = true → mark ∉ spacing.back :=
    fun mark hmark => not_mem_of_blanks spacing.back_blank (Literal.isBlank_of_isQuote hmark)
  have hquote : Literal.isQuote quote = true := by
    rcases h with rfl | ⟨rfl, -⟩ <;> rfl
  have hshape : headed leader spacing.gap keyword
      (spacing.between ++ (quote :: (text ++ [quote]) ++ spacing.back)) =
        (leader.spelling ++ (spacing.gap ++ (keyword.spelling ++ spacing.between))) ++
          quote :: (text ++ quote :: spacing.back) := by
    simp [headed]
  rw [hshape, Literal.quotedPart_eq (h.imp_right fun hdouble => ⟨hdouble.1, ?_⟩)
    (hfront quote hquote) (hback quote hquote)]
  -- no part of the line holds a single quote
  obtain ⟨rfl, hsingle⟩ := hdouble
  have hfrontSingle := hfront '\'' rfl
  have hbackSingle := hback '\'' rfl
  rw [List.mem_append, not_or]
  exact ⟨hfrontSingle, by simp [hsingle, hbackSingle]⟩

/-- A form is read back from its operands.  Only a request takes its operand from the line as it
was written. -/
theorem ofParts_line {form : Form} (hform : form.Proper) {written : Text}
    (hwritten : ∀ name, form = .request name → Statement.operand written = .ok name) :
    ofParts leader form.keyword (headed leader spacing.gap form.keyword
      (spacing.between ++ (form.operand spacing ++ spacing.back))) written =
        .ok (form.statement leader) := by
  cases form with
  | define name value =>
    have hread := assignment_line leader spacing .define hform value
    have hvalue := trim_blanks_append spacing.right_blank spacing.back_blank value
    simp only [ofParts, keyword, operand, hread, bind, Except.bind, pure, Except.pure,
      Option.getD_some, hvalue, statement]
  | url quote text =>
    simp only [ofParts, keyword, operand, quotedPart_line leader spacing .url hform, statement]
  | path quote text =>
    simp only [ofParts, keyword, operand, quotedPart_line leader spacing .path hform, statement]
  | header name value =>
    have hread := fullAssignment_line leader spacing .header hform value
    have hvalue := removeQuotes_assigned spacing value
    simp only [ofParts, keyword, operand, hread, bind, Except.bind, pure, Except.pure, hvalue,
      statement]
  | method word =>
    have hread : Statement.operand (headed leader spacing.gap .method
        (spacing.between ++ (word ++ spacing.back))) = .ok word :=
      operand_headed_append spacing.gap_isGap spacing.between_isGap hform
        (detached_of_blanks spacing.back_blank)
    simp only [ofParts, keyword, operand, hread, bind, Except.bind, pure, Except.pure, statement]
  | param name value =>
    have hread := fullAssignment_line leader spacing .param hform value
    have hvalue := removeQuotes_assigned spacing value
    simp only [ofParts, keyword, operand, hread, bind, Except.bind, pure, Except.pure, hvalue,
      statement]
  | request name =>
    have hread := hwritten name rfl
    simp only [ofParts, keyword, hread, bind, Except.bind, pure, Except.pure, statement]

/-- The operand of a written request is the name that it asks for. -/
theorem operand_line_request {name : Text} (hname : IsWord name) :
    Statement.operand ((Form.request name).line leader spacing) = .ok name := by
  rw [line, operand_blanks_append spacing.front_blank]
  exact operand_headed_append spacing.gap_isGap spacing.between_isGap hname
    (detached_of_blanks spacing.back_blank)

end Reading

end Form

open Form

/-- Every form is read back as the statement that it was written for, with any blanks around and
between its parts.  The line as it was written makes no difference, except that a request asks for
the name that stands there. -/
theorem ofText_line {form : Form} (hform : form.Proper) {leader : Leader}
    (hadmits : form.keyword.admits leader = true) (spacing : Spacing) :
    ofText (form.line leader spacing) (form.line leader spacing) =
        .ok (some (form.statement leader)) ∧
      ((∀ name, form ≠ .request name) → ∀ written,
        ofText (form.line leader spacing) written = .ok (some (form.statement leader))) ∧
      ∀ name, form = .request name → ∀ other, IsWord other → ∀ otherLeader otherSpacing,
        ofText (form.line leader spacing) ((Form.request other).line otherLeader otherSpacing) =
          .ok (some (.request leader other)) := by
  refine ⟨?_, fun hother written => ?_, ?_⟩
  · rw [ofText_line_eq leader spacing hadmits, ofParts_line leader spacing hform]
    · rfl
    · rintro name rfl
      exact operand_line_request leader spacing hform
  · rw [ofText_line_eq leader spacing hadmits, ofParts_line leader spacing hform]
    · rfl
    · exact fun name heq => absurd heq (hother name)
  · rintro name rfl other hword otherLeader otherSpacing
    have hread := operand_line_request otherLeader otherSpacing hword
    rw [ofText_line_eq leader spacing hadmits]
    simp only [ofParts, keyword, hread, bind, Except.bind, pure, Except.pure, Except.map]

/-- Blanks of several kinds. -/
def mixedSpacing : Spacing where
  front := "\u3000".toList
  gap := "\t".toList
  between := "\u2003 ".toList
  left := []
  right := "\u00a0".toList
  back := " \n".toList
  front_blank := by decide
  gap_isGap := by decide
  between_isGap := by decide
  left_blank := by decide
  right_blank := by decide
  back_blank := by decide

theorem ofText_line_mixedSpacing :
    (Form.header "X-'k'".toList " \"url = 'u'\" ".toList).Proper ∧
      Keyword.header.admits .also = true ∧
      (Form.header "X-'k'".toList " \"url = 'u'\" ".toList).line .also mixedSpacing =
        "\u3000And\theader\u2003 X-'k'=\u00a0 \"url = 'u'\"  \n".toList ∧
      ofText "\u3000And\theader\u2003 X-'k'=\u00a0 \"url = 'u'\"  \n".toList [] =
        .ok (some (.header .also "X-'k'".toList "url = u".toList)) := by
  have hform : (Form.header "X-'k'".toList " \"url = 'u'\" ".toList).Proper := by
    change IsName "X-'k'".toList
    decide
  have hline : (Form.header "X-'k'".toList " \"url = 'u'\" ".toList).line .also mixedSpacing =
      "\u3000And\theader\u2003 X-'k'=\u00a0 \"url = 'u'\"  \n".toList := by
    decide
  refine ⟨hform, rfl, hline, ?_⟩
  rw [← hline, (ofText_line hform rfl mixedSpacing).2.1 (by simp) []]
  decide

end Statement

end RequestScript

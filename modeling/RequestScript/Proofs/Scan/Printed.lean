import RequestScript.Proofs.Classification.Forms
import RequestScript.Proofs.Printing
import RequestScript.Proofs.Scan.Issues
import RequestScript.Proofs.Writes

/-!
# What printed lines issue

Every printed line is read back as the statement that it was printed for.  Trimming takes
at most the blank before an empty value, and the reader takes quotes, words and values
apart where the printer has put them together.

Main results:

- Theorem {lit}`quotedPart_append`: the part between the quotes of a line.
- Theorem {lit}`fullAssignment_assignedLine`: the name and the value of a line.
- Theorems {lit}`of_url`, {lit}`of_path`, {lit}`of_headers`, {lit}`of_params`,
  {lit}`of_body`, {lit}`of_request` and {lit}`of_method`: what each printed line issues.
-/

namespace RequestScript

open Text Statement

/-! ## Parts of lines -/

namespace Literal

/-- The part between quotes is found behind any text without a single quote. -/
theorem quotedPart_append {front : Text} (h : '\'' ∉ front) (value : Text) :
    quotedPart (front ++ '\'' :: (value ++ ['\''])) = value :=
  quotedPart_eq (Or.inl rfl) h List.not_mem_nil

/-- A value without quotes and without blanks at its ends is read as it is printed. -/
theorem removeQuotes_stripEnd {value : Text} (htrim : trim value = value)
    (hquotes : ∀ c ∈ value, isQuote c = false) :
    removeQuotes (stripEnd isBlank (' ' :: value)) = value := by
  rw [removeQuotes, trim_stripEnd, trim_cons_of_isBlank isBlank_space, htrim, without,
    List.filter_eq_self]
  intro c hc
  rw [hquotes c hc]
  rfl

end Literal

namespace Scan.Issues

/-! ## Ends of printed lines -/

/-- A line that ends with a quote has no blanks to lose. -/
theorem stripEnd_quoted (value : Text) :
    stripEnd isBlank (' ' :: '\'' :: (value ++ ['\''])) = ' ' :: '\'' :: (value ++ ['\'']) := by
  have hquote : isBlank '\'' = false := by decide
  have hcut := stripEnd_append_cons hquote (' ' :: '\'' :: value) []
  simpa using hcut

/-- Of an assignment only the value can lose blanks, since the equals sign stands before it. -/
theorem stripEnd_assigned (name value : Text) :
    stripEnd isBlank (' ' :: (name ++ ' ' :: '=' :: ' ' :: value)) =
      ' ' :: (name ++ [' ']) ++ '=' :: stripEnd isBlank (' ' :: value) := by
  have hequals : isBlank '=' = false := by decide
  have hcut := stripEnd_append_cons hequals (' ' :: (name ++ [' '])) (' ' :: value)
  simpa using hcut

/-- A line that ends with a word has no blanks to lose. -/
theorem stripEnd_word {word : Text} (h : IsWord word) :
    stripEnd isBlank (' ' :: word) = ' ' :: word := by
  have hend : stripEnd isBlank word = word := by simpa using h.stripEnd_append []
  rw [stripEnd_cons, hend, if_neg fun hnil => h.1 hnil.2]

/-! ## Operands of printed lines -/

/-- The value of a printed line with quotes is what stands between them. -/
theorem quotedPart_quotedLine (keyword : Keyword) (value : Text) :
    Literal.quotedPart (headed .star [' '] keyword
      (stripEnd isBlank (' ' :: '\'' :: (value ++ ['\''])))) = value := by
  have hfront : '\'' ∉ Leader.star.spelling ++ ([' '] ++ (keyword.spelling ++ [' '])) := by
    cases keyword <;> decide
  have happend := Literal.quotedPart_append hfront value
  rw [stripEnd_quoted]
  simpa [headed] using happend

/-- The operand of a printed line with a word is that word. -/
theorem operand_wordLine (keyword : Keyword) {word : Text} (h : IsWord word) :
    operand (headed .star [' '] keyword (stripEnd isBlank (' ' :: word))) = .ok word := by
  have hread : operand (headed .star [' '] keyword (' ' :: (word ++ []))) = .ok word :=
    operand_headed_word isGap_space h detached_nil
  rw [stripEnd_word h]
  simpa using hread

section Assigned

variable (keyword : Keyword) {name : Text} (hname : IsName name) (value : Text)
include hname

/-- No equals sign stands before the one that is printed. -/
theorem equals_not_mem_left : '=' ∉ ' ' :: (name ++ [' ']) := by
  have hequals := hname.2
  simp [hequals]

/-- The operand in front of the equals sign is the name. -/
theorem operand_left : operand (headed .star [' '] keyword (' ' :: (name ++ [' ']))) = .ok name :=
  operand_headed_word isGap_space hname.1 (detached_cons isBlank_space [])

/-- A printed assignment is taken apart into its name and its value, as far as it was trimmed. -/
theorem assignment_assignedLine :
    assignment (headed .star [' '] keyword
      (stripEnd isBlank (' ' :: (name ++ ' ' :: '=' :: ' ' :: value)))) =
        .ok (name, some (stripEnd isBlank (' ' :: value))) := by
  rw [stripEnd_assigned, assignment_headed isGap_space (equals_not_mem_left hname),
    operand_left keyword hname]
  rfl

/-- A printed assignment has a value, so it is a full one. -/
theorem fullAssignment_assignedLine :
    fullAssignment (headed .star [' '] keyword
      (stripEnd isBlank (' ' :: (name ++ ' ' :: '=' :: ' ' :: value)))) =
        .ok (name, stripEnd isBlank (' ' :: value)) := by
  rw [stripEnd_assigned, fullAssignment_headed isGap_space (equals_not_mem_left hname),
    operand_left keyword hname]
  rfl

end Assigned

/-! ## What each printed line does -/

section Lines

variable {bindings : Bindings} (hnamed : bindings.Named) (draft : Draft)
include hnamed

/-- A printed line with an address sets the base address and issues nothing. -/
theorem of_url {url : Text} (havoids : bindings.Avoids (quotedLine .url url))
    (hmethod : draft.method = []) :
    Issues ⟨bindings, draft⟩ [quotedLine .url url] [] ⟨bindings, draft.setBaseUrl url⟩ := by
  have hcomplete : (draft.setBaseUrl url).isComplete = false := by
    simp [Draft.isComplete, hmethod]
  exact silent (.url .star url) hnamed havoids (detached_cons isBlank_space _)
    (by rw [ofParts, quotedPart_quotedLine]) (by simp) (by simp) rfl hcomplete

/-- A printed line with a path adds it to the draft and issues nothing. -/
theorem of_path {path : Text} (havoids : bindings.Avoids (quotedLine .path path))
    (hmethod : draft.method = []) :
    Issues ⟨bindings, draft⟩ [quotedLine .path path] [] ⟨bindings, draft.setPath path⟩ := by
  have hcomplete : (draft.setPath path).isComplete = false := by
    simp [Draft.isComplete, Draft.setPath, hmethod]
  exact silent (.path .star path) hnamed havoids (detached_cons isBlank_space _)
    (by rw [ofParts, quotedPart_quotedLine]) (by simp) (by simp) rfl hcomplete

section Values

variable {name value : Text} (hname : IsName name) (htrim : trim value = value)
  (hquotes : ∀ c ∈ value, Literal.isQuote c = false) (hmethod : draft.method = [])
include hname htrim hquotes hmethod

/-- A printed line with a header sets that header. -/
theorem of_header (havoids : bindings.Avoids (assignedLine .header name value)) :
    Issues ⟨bindings, draft⟩ [assignedLine .header name value] []
      ⟨bindings, draft.setHeader name value⟩ := by
  have hcomplete : (draft.setHeader name value).isComplete = false := by
    simp [Draft.isComplete, Draft.setHeader, hmethod]
  refine silent (.header .star name value) hnamed havoids (detached_cons isBlank_space _) ?_
    (by simp) (by simp) rfl hcomplete
  rw [ofParts, fullAssignment_assignedLine .header hname]
  simp [bind, Except.bind, pure, Except.pure, Literal.removeQuotes_stripEnd htrim hquotes]

/-- A printed line with a parameter sets that parameter. -/
theorem of_param (havoids : bindings.Avoids (assignedLine .param name value)) :
    Issues ⟨bindings, draft⟩ [assignedLine .param name value] []
      ⟨bindings, draft.setParam name value⟩ := by
  have hcomplete : (draft.setParam name value).isComplete = false := by
    simp [Draft.isComplete, Draft.setParam, hmethod]
  refine silent (.param .star name value) hnamed havoids (detached_cons isBlank_space _) ?_
    (by simp) (by simp) rfl hcomplete
  rw [ofParts, fullAssignment_assignedLine .param hname]
  simp [bind, Except.bind, pure, Except.pure, Literal.removeQuotes_stripEnd htrim hquotes]

end Values

omit hnamed in
/-- Assignments that each write their entry write a whole map. -/
theorem of_assignments {keyword : Keyword} (stateOf : OrderedMap Text Text → State)
    {m : OrderedMap Text Text} (h : Assignable m)
    (hwrites : ∀ entry ∈ m.entries, ∀ written : OrderedMap Text Text,
      Issues (stateOf written) [assignedLine keyword entry.1 entry.2] []
        (stateOf (written.insert entry.1 entry.2))) :
    Issues (stateOf ∅) (m.entries.map fun entry => assignedLine keyword entry.1 entry.2) []
      (stateOf m) := by
  have hlist : m.entries.foldl (fun written entry => written.insert entry.1 entry.2) ∅ = m :=
    OrderedMap.ofList_of_nodup h.nodup
  have hmap := Issues.map stateOf (fun entry => assignedLine keyword entry.1 entry.2)
    (fun written entry => written.insert entry.1 entry.2) m.entries ∅ hwrites
  rw [hlist] at hmap
  exact hmap

/-- Printed lines for headers, one after another, leave the draft with exactly these headers. -/
theorem of_headers {headers : OrderedMap Text Text} (h : Assignable headers)
    (havoids : ∀ entry ∈ headers.entries,
      bindings.Avoids (assignedLine .header entry.1 entry.2))
    (hmethod : draft.method = []) :
    Issues ⟨bindings, { draft with headers := ∅ }⟩
      (headers.entries.map fun entry => assignedLine .header entry.1 entry.2) []
      ⟨bindings, { draft with headers := headers }⟩ := by
  apply of_assignments (fun written => ⟨bindings, { draft with headers := written }⟩) h
  intro entry hentry written
  exact of_header hnamed { draft with headers := written } (h.name entry hentry)
    (h.trimmed entry hentry) (h.unquoted entry hentry) hmethod (havoids entry hentry)

/-- Printed lines for parameters, one after another, leave the draft with exactly these. -/
theorem of_params {params : OrderedMap Text Text} (h : Assignable params)
    (havoids : ∀ entry ∈ params.entries,
      bindings.Avoids (assignedLine .param entry.1 entry.2))
    (hmethod : draft.method = []) :
    Issues ⟨bindings, { draft with params := ∅ }⟩
      (params.entries.map fun entry => assignedLine .param entry.1 entry.2) []
      ⟨bindings, { draft with params := params }⟩ := by
  apply of_assignments (fun written => ⟨bindings, { draft with params := written }⟩) h
  intro entry hentry written
  exact of_param hnamed { draft with params := written } (h.name entry hentry)
    (h.trimmed entry hentry) (h.unquoted entry hentry) hmethod (havoids entry hentry)

/-- The lines of a block define their variable. -/
theorem of_body {name body : Text} (hname : IsName name)
    (havoids : bindings.Avoids (assignedLine .define name blockMark))
    (hbody : Blockable body) (hmethod : draft.method = []) :
    Issues ⟨bindings, draft⟩
      (assignedLine .define name blockMark :: (Text.lines body ++ [blockMark])) []
      ⟨bindings.define name body, draft⟩ := by
  have hcomplete : draft.isComplete = false := by
    simp [Draft.isComplete, hmethod]
  have hmark : trim (stripEnd isBlank (' ' :: blockMark)) = blockMark := by decide
  have hblockMark : blockMark ≠ [] := by decide
  have htexts : ∀ text ∈ Text.lines body, Literal.closesBlock (trim text) = false := by
    intro text htext
    rw [hbody.trimmed text htext]
    exact hbody.unclosed text htext
  have hsame : (Text.lines body).map trim = Text.lines body := by
    rw [List.map_congr_left hbody.trimmed, List.map_id']
  have hissues : Issues ⟨bindings, draft⟩
      (assignedLine .define name blockMark :: (Text.lines body ++ [blockMark])) []
      ⟨bindings.define name
        (Literal.stripQuotes (trim (unlines ((Text.lines body).map trim)))), draft⟩ := by
    refine of_block hnamed havoids (detached_cons isBlank_space _) ?_ hblockMark (by decide) htexts
      (by decide) hcomplete
    rw [ofParts, assignment_assignedLine .define hname]
    simp [bind, Except.bind, pure, Except.pure, hmark]
  rw [hsame, hbody.stripQuotes_unlines] at hissues
  exact hissues

/-- The line that sends a body takes its word as it is written. -/
theorem of_request {name body : Text} (hname : IsWord name)
    (hsending : bindings.Avoids (headed .star [' '] .request []))
    (hbody : bindings.value? name = some body) (hmethod : draft.method = []) :
    Issues ⟨bindings, draft⟩ [wordLine .request name] [] ⟨bindings, draft.setBody body⟩ := by
  rcases avoids_of_headed hsending with ⟨hstar, hkeyword, -⟩
  have hdraft : applyStatement bindings draft (.request .star name) =
      draft.setBody body := by
    simp [applyStatement, hbody]
  have hcomplete : (draft.setBody body).isComplete = false := by
    simp [Draft.isComplete, Draft.setBody, hmethod]
  have hissues := of_headed (.request .star name) hnamed hstar hkeyword
    (detached_cons isBlank_space name) (by rw [ofParts, operand_wordLine .request hname]; rfl)
    (by simp) (by simp) hdraft
  rw [emit_of_not_isComplete hcomplete] at hissues
  exact hissues

/-- The line with the method issues the request. -/
theorem of_method {method : Text} (hword : IsWord method)
    (havoids : bindings.Avoids (wordLine .method method))
    (hupper : upper method = method) (hbase : draft.baseUrl ≠ []) :
    Issues ⟨bindings, draft⟩ [wordLine .method method] [(draft.setMethod method).toRequest]
      ⟨bindings, (draft.setMethod method).reset⟩ := by
  have hcomplete : (draft.setMethod method).isComplete = true := by
    rw [Draft.isComplete_iff]
    simp [hupper, hword.1, hbase]
  have hissues : Issues ⟨bindings, draft⟩ [wordLine .method method]
      (emit ⟨bindings, draft.setMethod method⟩).2.toList
      (emit ⟨bindings, draft.setMethod method⟩).1 := by
    refine of_avoids (.method .star method) hnamed havoids (detached_cons isBlank_space method) ?_
      (by simp) (by simp) rfl
    rw [ofParts, operand_wordLine .method hword]
    simp [bind, Except.bind, pure, Except.pure, hupper]
  rw [emit_of_isComplete hcomplete] at hissues
  exact hissues

end Lines

end Scan.Issues

end RequestScript

import RequestScript.Proofs.Scan.Printed

/-!
# Reading what was printed

A scenario leaves the scan with nothing but its base address, its variable and the request
that it has issued.  Along a script the variables grow, and none of them occurs in what
follows.  A printed script therefore issues the requests that it was printed from.

Main results:

- Theorem {lit}`issues_lines`: a scenario issues its request.
- Theorem {lit}`issues_scenarios`: scenarios one after another.
- Theorem {lit}`requests_unlines`: what texts issue is what their script issues.
- Theorem {lit}`requests_print`: a printed script issues what it was printed from.
-/

namespace RequestScript

open Text Statement

/-! ## Scenarios -/

namespace Scenario

/-- The variables after a scenario. -/
def bind (scenario : Scenario) (bindings : Bindings) : Bindings :=
  if scenario.request.body = [] then bindings
  else bindings.define scenario.bodyName scenario.request.body

/-- The variables of a scenario have names. -/
theorem named_bind {scenario : Scenario} (h : scenario.WellFormed) {bindings : Bindings}
    (hnamed : bindings.Named) : (scenario.bind bindings).Named := by
  unfold bind
  split
  · exact hnamed
  · rename_i hbody
    exact hnamed.define (h.bodyName hbody).name _

/-- A text that spares the name of the body names no variable of the scenario. -/
theorem avoids_bind {scenario : Scenario} {bindings : Bindings} {text : Text}
    (havoids : bindings.Avoids text)
    (hspares : scenario.request.body ≠ [] → ¬ scenario.bodyName <:+: text) :
    (scenario.bind bindings).Avoids text := by
  unfold bind
  split
  · exact havoids
  · rename_i hbody
    exact havoids.define (hspares hbody) _

section Issues

variable {scenario : Scenario} (h : scenario.WellFormed) {bindings : Bindings}
  (hnamed : bindings.Named)
include h hnamed

/-- The settings of a scenario set the address, the headers and the parameters. -/
theorem issues_settings (havoids : ∀ text ∈ scenario.settings, bindings.Avoids text)
    (draft : Draft) :
    Scan.Issues ⟨bindings, draft.startScenario⟩ scenario.settings [] ⟨bindings, {
      baseUrl := scenario.request.baseUrl
      path := scenario.request.path
      headers := scenario.request.headers
      params := scenario.request.params }⟩ := by
  have hheadersAvoid : ∀ entry ∈ scenario.request.headers.entries,
      bindings.Avoids (assignedLine .header entry.1 entry.2) := by
    intro entry hentry
    apply havoids _
    rw [settings, List.mem_append, List.mem_append]
    exact Or.inl (Or.inr (List.mem_map_of_mem hentry))
  have hparamsAvoid : ∀ entry ∈ scenario.request.params.entries,
      bindings.Avoids (assignedLine .param entry.1 entry.2) := by
    intro entry hentry
    apply havoids _
    rw [settings, List.mem_append]
    exact Or.inr (List.mem_map_of_mem hentry)
  have hurl := Scan.Issues.of_url hnamed draft.startScenario
    (havoids (quotedLine .url scenario.request.baseUrl) (by simp [settings])) rfl
  have hpath := Scan.Issues.of_path hnamed
    (draft.startScenario.setBaseUrl scenario.request.baseUrl)
    (havoids (quotedLine .path scenario.request.path) (by simp [settings])) rfl
  have hheaders := Scan.Issues.of_headers hnamed
    { baseUrl := scenario.request.baseUrl, path := scenario.request.path }
    h.headers hheadersAvoid rfl
  have hparams := Scan.Issues.of_params hnamed
    { baseUrl := scenario.request.baseUrl, path := scenario.request.path,
      headers := scenario.request.headers }
    h.params hparamsAvoid rfl
  exact ((hurl.append hpath).append hheaders).append hparams

/-- The lines with the body define the variable and send its value. -/
theorem issues_bodyLines
    (havoids : scenario.request.body ≠ [] →
      bindings.Avoids (assignedLine .define scenario.bodyName blockMark) ∧
        bindings.Avoids (headed .star [' '] .request []))
    (draft : Draft) (hmethod : draft.method = []) (hempty : draft.body = []) :
    Scan.Issues ⟨bindings, draft⟩ scenario.bodyLines []
      ⟨scenario.bind bindings, draft.setBody scenario.request.body⟩ := by
  by_cases hbody : scenario.request.body = []
  · have hsame : draft.setBody [] = draft := by
      rw [Draft.setBody, ← hempty]
    rw [bodyLines, bind, if_pos hbody, if_pos hbody, hbody, hsame]
    exact Scan.Issues.nil _
  · rcases havoids hbody with ⟨hdefine, hsend⟩
    have hsendable := h.bodyName hbody
    have hblock := Scan.Issues.of_body hnamed draft hsendable.name hdefine (h.body hbody) hmethod
    have hrequest := Scan.Issues.of_request (hnamed.define hsendable.name scenario.request.body)
      draft hsendable.name.1 (hsend.define hsendable.sending scenario.request.body)
      (Bindings.value?_define_self bindings scenario.bodyName scenario.request.body) hmethod
    have hboth := hblock.append hrequest
    rw [bodyLines, bind, if_neg hbody, if_neg hbody]
    simpa using hboth

omit hnamed in
/-- A method brings along no header that the scenario has not set. -/
theorem setMethod_eq {draft : Draft} (hheaders : draft.headers = scenario.request.headers) :
    draft.setMethod scenario.request.method = { draft with method := scenario.request.method } := by
  have hpresent : ∀ {name : Text}, name ∈ scenario.request.headers.keys →
      draft.headers.insertNew name jsonMediaType = draft.headers := by
    intro name hname
    rw [← hheaders] at hname
    exact if_pos ((OrderedMap.contains_iff_mem_keys draft.headers name).mpr hname)
  simp only [Draft.setMethod, h.upper, hpresent h.accept]
  split
  · rename_i hsends
    rw [hpresent (h.contentType (by simpa using hsends))]
  · rfl

/-- A scenario issues its request and leaves nothing but its address and its variable. -/
theorem issues_lines (havoids : ∀ text ∈ scenario.exposed, bindings.Avoids text) (draft : Draft) :
    Scan.Issues ⟨bindings, draft⟩ scenario.lines [scenario.request]
      ⟨scenario.bind bindings, { baseUrl := scenario.request.baseUrl }⟩ := by
  have htitle := Scan.Issues.of_scenario draft hnamed (havoids _ (by simp [exposed]))
    (detached_cons isBlank_space scenario.title)
  have hsettings := issues_settings h hnamed
    (fun text htext => havoids text (by simp [exposed, htext])) draft
  have hbody := issues_bodyLines h hnamed
    (fun hne => ⟨havoids _ (by simp [exposed, hne]), havoids _ (by simp [exposed, hne])⟩) {
      baseUrl := scenario.request.baseUrl
      path := scenario.request.path
      headers := scenario.request.headers
      params := scenario.request.params } rfl rfl
  have hmethodLine : (scenario.bind bindings).Avoids scenario.methodLine :=
    avoids_bind (havoids _ (by simp [exposed])) fun hne => (h.bodyName hne).method
  have hmethod := Scan.Issues.of_method (named_bind h hnamed) {
      baseUrl := scenario.request.baseUrl
      path := scenario.request.path
      headers := scenario.request.headers
      params := scenario.request.params
      body := scenario.request.body } h.method hmethodLine h.upper h.baseUrl
  rw [setMethod_eq h rfl] at hmethod
  exact ((htitle.append hsettings).append hbody).append hmethod

end Issues

/-- Scenarios one after another issue their requests, in order.  The variables grow, and
none of them occurs in what follows. -/
theorem issues_scenarios {scenarios : List Scenario}
    (h : ∀ scenario ∈ scenarios, scenario.WellFormed) (hspares : scenarios.Pairwise Spares)
    {bindings : Bindings} (hnamed : bindings.Named)
    (havoids : ∀ scenario ∈ scenarios, ∀ text ∈ scenario.exposed, bindings.Avoids text)
    (draft : Draft) :
    ∃ after, Scan.Issues ⟨bindings, draft⟩ (scenarios.flatMap lines)
      (scenarios.map Scenario.request) after := by
  induction scenarios generalizing bindings draft with
  | nil => exact ⟨_, Scan.Issues.nil _⟩
  | cons scenario scenarios ih =>
    have hscenario := h scenario List.mem_cons_self
    rw [List.pairwise_cons] at hspares
    have hlater : ∀ later ∈ scenarios, ∀ text ∈ later.exposed,
        (scenario.bind bindings).Avoids text := by
      intro later hmem text htext
      exact avoids_bind (havoids later (List.mem_cons_of_mem scenario hmem) text htext)
        fun hne => hspares.1 later hmem hne text htext
    obtain ⟨after, hissues⟩ := ih (fun later hmem => h later (List.mem_cons_of_mem scenario hmem))
      hspares.2 (named_bind hscenario hnamed) hlater { baseUrl := scenario.request.baseUrl }
    have hfirst := issues_lines hscenario hnamed (havoids scenario List.mem_cons_self) draft
    exact ⟨after, hfirst.append hissues⟩

/-! ## Printed scripts -/

/-- A headed line is one line if what follows its head is. -/
theorem newline_not_mem_headed {keyword : Keyword} {rest : Text} (h : '\n' ∉ rest) :
    '\n' ∉ headed .star [' '] keyword rest := by
  have hleader := Leader.star.isWord_spelling.not_mem_of_isBlank isBlank_newline
  have hkeyword := keyword.isWord_spelling.not_mem_of_isBlank isBlank_newline
  rw [headed]
  simp only [List.mem_append, not_or]
  exact ⟨hleader, by decide, hkeyword, h⟩

/-- A printed line with quotes is one line. -/
theorem newline_not_mem_quotedLine {keyword : Keyword} {value : Text} (h : '\n' ∉ value) :
    '\n' ∉ quotedLine keyword value := by
  apply newline_not_mem_headed
  simp [h]

/-- A printed assignment is one line. -/
theorem newline_not_mem_assignedLine {keyword : Keyword} {name value : Text} (hname : IsName name)
    (h : '\n' ∉ value) : '\n' ∉ assignedLine keyword name value := by
  have hnewline := hname.1.not_mem_of_isBlank isBlank_newline
  apply newline_not_mem_headed
  simp [h, hnewline]

/-- A printed line with a word is one line. -/
theorem newline_not_mem_wordLine {keyword : Keyword} {word : Text} (h : IsWord word) :
    '\n' ∉ wordLine keyword word := by
  have hnewline := h.not_mem_of_isBlank isBlank_newline
  apply newline_not_mem_headed
  simp [hnewline]

/-- Every printed line of a body is one line. -/
theorem newline_not_mem_of_mem_bodyLines {scenario : Scenario} (h : scenario.WellFormed)
    {text : Text} (htext : text ∈ scenario.bodyLines) : '\n' ∉ text := by
  unfold bodyLines at htext
  split at htext
  · simp at htext
  · rename_i hbody
    have hname := (h.bodyName hbody).name
    simp only [List.mem_cons, List.mem_append, List.not_mem_nil, or_false] at htext
    rcases htext with rfl | hline | rfl | rfl
    · exact newline_not_mem_assignedLine hname (by decide)
    · intro hmem
      have hother := (mem_of_mem_splitOnP hline '\n' hmem).2
      simp at hother
    · decide
    · exact newline_not_mem_wordLine hname.1

/-- No line of a scenario holds a newline. -/
theorem newline_not_mem_of_mem_lines {scenario : Scenario} (h : scenario.WellFormed)
    {text : Text} (htext : text ∈ scenario.lines) : '\n' ∉ text := by
  simp only [lines, settings, List.mem_append, List.mem_cons, List.not_mem_nil, or_false,
    List.mem_map] at htext
  rcases htext with
    ((rfl | ((rfl | rfl) | ⟨header, hheader, rfl⟩) | ⟨param, hparam, rfl⟩) | hbody) | rfl
  · have htitle := h.title
    simp [htitle]
  · exact newline_not_mem_quotedLine h.baseUrlLine
  · exact newline_not_mem_quotedLine h.pathLine
  · exact newline_not_mem_assignedLine (h.headers.name header hheader)
      (h.headers.newline header hheader)
  · exact newline_not_mem_assignedLine (h.params.name param hparam)
      (h.params.newline param hparam)
  · exact newline_not_mem_of_mem_bodyLines h hbody
  · exact newline_not_mem_wordLine h.method

end Scenario

/-- What texts issue is what the script made of them issues. -/
theorem requests_unlines {texts : List Text} {requests : List Request} {after : Scan.State}
    (hne : texts ≠ []) (hlines : ∀ text ∈ texts, '\n' ∉ text)
    (h : Scan.Issues {} texts requests after) :
    Script.requests (Text.unlines texts) = .ok requests := by
  rcases h 0 [] with ⟨visits, last, hsteps, hrequests⟩
  have hscan : Script.scan (Text.unlines texts) = ⟨visits, none⟩ := by
    have hcut : Text.lines (Text.unlines texts) = texts := List.splitOn_intercalate '\n' hlines hne
    rw [List.append_nil] at hsteps
    rw [Script.scan, Script.lines, hcut, hsteps.run_eq]
    simp
  rw [Script.requests, hscan]
  exact congrArg Except.ok hrequests

/-- A printed script issues the requests that it was printed from. -/
theorem requests_print (scenarios : List Scenario)
    (h : ∀ scenario ∈ scenarios, scenario.WellFormed)
    (hspares : scenarios.Pairwise Scenario.Spares) :
    Script.requests (Script.print scenarios) = .ok (scenarios.map Scenario.request) := by
  have hempty : ∀ scenario ∈ scenarios, ∀ text ∈ scenario.exposed, Bindings.Avoids ∅ text := by
    intro scenario _ text _ name hname
    simp at hname
  rcases Scenario.issues_scenarios h hspares Bindings.named_empty hempty {} with ⟨after, hissues⟩
  cases scenarios with
  | nil =>
    -- nothing is printed as one blank line
    have hkeep : ∀ leader name value,
        (none : Option Statement) ≠ some (.definition leader name value) := by simp
    have hblank : Scan.Issues {} [[]] [] {} := .of_line rfl hkeep rfl
    have hrequests : Script.requests (Text.unlines [[]]) = .ok [] :=
      requests_unlines (by simp) (by simp) hblank
    exact hrequests
  | cons scenario scenarios =>
    refine requests_unlines (by simp [Scenario.lines]) ?_ hissues
    intro text htext
    rcases List.mem_flatMap.mp htext with ⟨printed, hprinted, hmem⟩
    exact Scenario.newline_not_mem_of_mem_lines (h printed hprinted) hmem

/-- A scenario with a body in two lines, and one without a body whose address holds
quotes. -/
def twoScenarios : List Scenario :=
  [{ title := "send".toList
     request := {
      method := "PUT".toList
      baseUrl := "u".toList
      path := "/a".toList
      headers := ⟨[("Accept".toList, "*".toList), ("Content-Type".toList, "x=y".toList)]⟩
      body := "b\nc".toList }
     bodyName := "data".toList },
    { title := []
      request := {
        method := "GET".toList
        baseUrl := "'v'".toList
        headers := ⟨[("Accept".toList, [])]⟩
        params := ⟨[("q".toList, "1".toList)]⟩ }
      bodyName := [] }]

theorem requests_print_twoScenarios :
    (∀ scenario ∈ twoScenarios, scenario.WellFormed) ∧ twoScenarios.Pairwise Scenario.Spares ∧
      Script.requests (Script.print twoScenarios) = .ok (twoScenarios.map Scenario.request) := by
  have hwellFormed : ∀ scenario ∈ twoScenarios, scenario.WellFormed := by decide +kernel
  have hspares : twoScenarios.Pairwise Scenario.Spares := by decide +kernel
  exact ⟨hwellFormed, hspares, requests_print twoScenarios hwellFormed hspares⟩

end RequestScript

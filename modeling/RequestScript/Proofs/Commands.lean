import RequestScript.Command
import RequestScript.Proofs.Scan.Newlines
import RequestScript.Proofs.Scan.WellFormed
import RequestScript.Proofs.Text.Cuts

/-!
# Commands and lines

A command is meant to stand on one line.  Its body does, since newlines are dropped from a
body, and its method and its names do, since they are words.  All other parts are quoted as
they are: a command holds a newline exactly when one has got into its address or into the
value of a header or a parameter.

Stored commands are found again by their blank lines as long as no command holds a blank
line itself.  A command ends in a quote, so that the blank line after it begins where the
command ends.

Main results:

- Theorem {lit}`newline_mem_render_iff`: when a command holds a newline.
- Theorem {lit}`splitAll_format_iff`: when stored commands are found again.
- Theorem {lit}`newline_mem_commands_iff`: both for the commands of a script, and where their
  newlines come from.
-/

namespace RequestScript

open Text

/-! ## Parts of a command -/

/-- A name is a word and holds no newline. -/
theorem Tidy.newline_not_mem {m : OrderedMap Text Text} (h : Tidy m) :
    ∀ entry ∈ m.entries, '\n' ∉ entry.1 :=
  fun entry hentry => (h.name entry hentry).1.not_mem_of_isBlank isBlank_newline

namespace Request

variable {request : Request}

/-- A query holds a newline exactly when a parameter does. -/
theorem newline_mem_queryString_iff (h : Tidy request.params) :
    '\n' ∈ request.queryString ↔ ¬ Unbroken request.params := by
  rw [queryString, mem_join (by decide)]
  constructor
  · rintro ⟨part, hpart, hnewline⟩ hunbroken
    rcases List.mem_map.mp hpart with ⟨entry, hentry, rfl⟩
    rcases List.mem_append.mp hnewline with hname | hvalue
    · exact h.newline_not_mem entry hentry hname
    · exact hunbroken entry hentry (List.mem_of_ne_of_mem (by decide) hvalue)
  · intro hbroken
    simp only [Unbroken, not_forall, not_not] at hbroken
    rcases hbroken with ⟨entry, hentry, hvalue⟩
    exact ⟨_, List.mem_map_of_mem hentry,
      List.mem_append_right _ (List.mem_cons_of_mem _ hvalue)⟩

/-- A target holds a newline exactly when its address, its path or a parameter does. -/
theorem newline_mem_target_iff (h : Tidy request.params) :
    '\n' ∈ request.target ↔
      '\n' ∈ request.baseUrl ∨ '\n' ∈ request.path ∨ ¬ Unbroken request.params := by
  have hparams : '\n' ∈ (if request.params.isEmpty then [] else '?' :: request.queryString) ↔
      ¬ Unbroken request.params := by
    split
    · rename_i hempty
      have hnone : request.params.entries = [] := by simpa [OrderedMap.isEmpty] using hempty
      simp [Unbroken, hnone]
    · rw [List.mem_cons, or_iff_right (by decide), newline_mem_queryString_iff h]
  rw [target, List.mem_append, List.mem_append, hparams, or_assoc]

end Request

namespace Command

/-- Quoting adds quotes only. -/
theorem mem_quote_iff {c : Char} (hc : c ≠ '\'') (text : Text) : c ∈ quote text ↔ c ∈ text := by
  simp [quote, hc]

/-- A body is written on one line. -/
theorem newline_not_mem_escapeBody (body : Text) : '\n' ∉ escapeBody body := by
  intro hmem
  rcases mem_of_mem_replaceAll hmem with hbody | hescape
  · simp [without] at hbody
  · revert hescape
    decide

/-- A header option holds a newline exactly when its value does. -/
theorem newline_mem_headerOption_iff {entry : Text × Text} (hname : '\n' ∉ entry.1) :
    '\n' ∈ headerOption entry ↔ '\n' ∈ entry.2 := by
  rw [headerOption, List.mem_append, or_iff_right (by decide), mem_quote_iff (by decide),
    List.mem_append, List.mem_append, or_iff_right]
  rintro (hmem | hmem)
  · exact hname hmem
  · revert hmem
    decide

/-- The parts of a command are its method, its headers, its target and its body. -/
theorem mem_parts_iff {request : Request} {part : Text} :
    part ∈ parts request ↔
      part = "curl -X ".toList ++ request.method ∨
        (∃ entry ∈ request.headers.entries, headerOption entry = part) ∨
        part = quote request.target ∨
        request.sendsBody = true ∧ part = "-d ".toList ++ quote (escapeBody request.body) := by
  unfold parts
  split <;> simp_all

/-- A command holds a newline exactly when a newline has got into its request. -/
theorem newline_mem_render_iff {request : Request} (h : request.WellFormed) :
    '\n' ∈ render request ↔ ¬ request.OneLine := by
  have htarget := Request.newline_mem_target_iff h.params
  have hheader := fun entry hentry =>
    newline_mem_headerOption_iff (h.headers.newline_not_mem entry hentry)
  rw [render, mem_join (by decide)]
  constructor
  · rintro ⟨part, hpart, hnewline⟩ honeLine
    rcases mem_parts_iff.mp hpart with rfl | ⟨entry, hentry, rfl⟩ | rfl | ⟨-, rfl⟩
    · rcases List.mem_append.mp hnewline with hword | hmethod
      · revert hword
        decide
      · exact h.method.word.not_mem_of_isBlank isBlank_newline hmethod
    · exact honeLine.headers entry hentry ((hheader entry hentry).mp hnewline)
    · rcases htarget.mp ((mem_quote_iff (by decide) _).mp hnewline) with hbase | hpath | hparams
      · exact honeLine.baseUrl hbase
      · exact honeLine.path hpath
      · exact hparams honeLine.params
    · rcases List.mem_append.mp hnewline with hoption | hbody
      · revert hoption
        decide
      · exact newline_not_mem_escapeBody request.body ((mem_quote_iff (by decide) _).mp hbody)
  · intro hbroken
    by_contra hnone
    have hfree : ∀ part ∈ parts request, '\n' ∉ part := fun part hpart hnewline =>
      hnone ⟨part, hpart, hnewline⟩
    have hquoted := hfree _ (mem_parts_iff.mpr (Or.inr (Or.inr (Or.inl rfl))))
    rw [mem_quote_iff (by decide), htarget, not_or, not_or, not_not] at hquoted
    refine hbroken ⟨hquoted.1, hquoted.2.1, fun entry hentry hvalue => ?_, hquoted.2.2⟩
    exact hfree _ (mem_parts_iff.mpr (Or.inr (Or.inl ⟨entry, hentry, rfl⟩)))
      ((hheader entry hentry).mpr hvalue)

/-! ## Stored commands -/

/-- A command ends in a quote. -/
theorem getLast?_render (request : Request) : (render request).getLast? = some '\'' := by
  have hquoted : ∃ front text, parts request = front ++ [text ++ ['\'']] := by
    unfold parts
    split
    · exact ⟨("curl -X ".toList ++ request.method) :: request.headers.entries.map headerOption
        ++ [quote request.target], "-d ".toList ++ '\'' :: escapeBody request.body, by simp [quote]⟩
    · exact ⟨("curl -X ".toList ++ request.method) :: request.headers.entries.map headerOption,
        '\'' :: request.target, rfl⟩
  rcases hquoted with ⟨front, text, hparts⟩
  rcases suffix_join [' '] (text ++ ['\'']) front with ⟨before, hrender⟩
  rw [render, hparts, ← hrender, ← List.append_assoc, List.getLast?_concat]

/-- A blank line after a text begins where the text ends, unless the text holds a blank line
or ends in a newline. -/
theorem blankLine_infix_concat_iff {text : Text} (hlast : text.getLast? ≠ some '\n') :
    "\n\n".toList <:+: text ++ ['\n'] ↔ "\n\n".toList <:+: text := by
  rw [List.infix_concat_iff, or_iff_right]
  intro hsuffix
  rcases hsuffix with ⟨front, hfront⟩
  have hends : front ++ ['\n'] ++ ['\n'] = text ++ ['\n'] := by
    rw [← hfront, List.append_assoc]
    rfl
  exact hlast (by rw [← List.append_cancel_right hends, List.getLast?_concat])

/-- Stored commands are found again exactly when no command holds a blank line. -/
theorem splitAll_format_iff {commands : List Text}
    (hlast : ∀ command ∈ commands, command.getLast? ≠ some '\n') :
    splitAll "\n\n".toList (format commands) = commands ++ [[]] ↔
      ∀ command ∈ commands, ¬ "\n\n".toList <:+: command := by
  constructor
  · intro hsplit command hcommand
    have hpiece : command ∈ splitAll "\n\n".toList (format commands) :=
      hsplit ▸ List.mem_append_left _ hcommand
    exact not_infix_of_mem_splitAll (by decide) hpiece
  · intro hfree
    induction commands with
    | nil => rfl
    | cons command commands ih =>
      rcases List.forall_mem_cons.mp hlast with ⟨hhere, hlater⟩
      rcases List.forall_mem_cons.mp hfree with ⟨hblank, hothers⟩
      have hfirst : ¬ "\n\n".toList <:+: command ++ ['\n'] :=
        (blankLine_infix_concat_iff hhere).not.mpr hblank
      rw [format_cons, List.append_assoc, splitAll_append (by decide) hfirst, ih hlater hothers,
        List.cons_append]

end Command

open Scan

/-- The commands of a script and their newlines.  A command holds a newline exactly when one
has got into its request, where it comes from a line on which a variable with a value of
several lines was used; newlines of a body do not count.  The stored commands are found
again by their blank lines exactly when no command holds a blank line. -/
theorem newline_mem_commands_iff (content : Text) {commands : List Text}
    (h : Script.commands content = .ok commands) :
    commands = (Script.scan content).requests.map Command.render ∧
      (∀ request ∈ (Script.scan content).requests,
        ('\n' ∈ Command.render request ↔ ¬ request.OneLine) ∧
          (¬ request.OneLine → ∃ visit ∈ (Script.scan content).visits,
            visit.Breaks ∧ ¬ Unbroken visit.before.bindings)) ∧
      (splitAll "\n\n".toList (Command.format commands) = commands ++ [[]] ↔
        ∀ command ∈ commands, ¬ "\n\n".toList <:+: command) := by
  have hcommands : commands = (Script.scan content).requests.map Command.render := by
    cases hrequests : Script.requests content with
    | error failure => simp [Script.commands, hrequests, Except.map] at h
    | ok requests =>
      rw [(Script.requests_eq_ok.mp hrequests).2]
      simpa [Script.commands, hrequests, Except.map] using h.symm
  refine ⟨hcommands, fun request hrequest => ⟨?_, exists_breaks_of_not_oneLine hrequest⟩, ?_⟩
  · rcases exists_reaches_of_mem_requests hrequest with ⟨state, line, rest, hreach, hemitted⟩
    exact Command.newline_mem_render_iff (hreach.wellFormed_emitted hemitted)
  · apply Command.splitAll_format_iff
    intro command hcommand
    rw [hcommands] at hcommand
    rcases List.mem_map.mp hcommand with ⟨request, -, rfl⟩
    rw [Command.getLast?_render]
    decide

/-- A script that uses a value of several lines in a header. -/
def brokenHeader : Text :=
  "* def V = \"\"\"\nx\n\ny\n\"\"\"\n* url 'http://h'\n* header H = V\n* method get".toList

/-- The command of that script. -/
def brokenCommand : Text :=
  "curl -X GET -H 'H: x\n\ny' -H 'Accept: application/json' 'http://h'".toList

theorem newline_mem_commands_iff_brokenHeader :
    Script.commands brokenHeader = .ok [brokenCommand] ∧ '\n' ∈ brokenCommand ∧
      (∃ request ∈ (Script.scan brokenHeader).requests, ¬ request.OneLine) ∧
      (∃ visit ∈ (Script.scan brokenHeader).visits,
        visit.Breaks ∧ ¬ Unbroken visit.before.bindings) ∧
      splitAll "\n\n".toList (Command.format [brokenCommand]) ≠ [brokenCommand] ++ [[]] := by
  have hcommands : Script.commands brokenHeader = .ok [brokenCommand] := by decide +kernel
  have hnewline : '\n' ∈ brokenCommand := by decide +kernel
  rcases newline_mem_commands_iff brokenHeader hcommands with ⟨hrender, hrequests, hsplit⟩
  have hissued : brokenCommand ∈ (Script.scan brokenHeader).requests.map Command.render :=
    hrender ▸ List.mem_singleton_self brokenCommand
  rcases List.mem_map.mp hissued with ⟨request, hrequest, hcommand⟩
  have hbroken : ¬ request.OneLine := (hrequests request hrequest).1.mp (hcommand ▸ hnewline)
  have hblank : "\n\n".toList <:+: brokenCommand := by decide +kernel
  exact ⟨hcommands, hnewline, ⟨request, hrequest, hbroken⟩, (hrequests request hrequest).2 hbroken,
    fun hfound => hsplit.mp hfound brokenCommand (List.mem_singleton_self brokenCommand) hblank⟩

end RequestScript

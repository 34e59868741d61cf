import RequestScript.Proofs.Conversion.Turns

/-!
# Command files of a conversion

The commands of a converted file are in its command file when its turn is over, and stay there
until a later turn stores commands at the same place.  A command file is named by the stem of its
source, so two sources share a command file when they share their stem: an ending without slashes
never makes two stems lead to one place.

Main results:

- Theorem {lit}`Converting.written_of_ok`: what is stored when a file is converted.
- Theorem {lit}`Conversion.destination_eq_iff_stem_eq`: which sources share a command file.
- Theorem {lit}`Conversion.outputs_kept`: the command files that a conversion leaves.
-/

namespace RequestScript

/-! ## Stems -/

namespace Path

/-- A stem is the whole name, or what stands before its last point. -/
theorem stemOf_eq (name : Text) :
    stemOf name = name ∨
      ∃ before, (Text.splitAtFirst '.' name.reverse).2 = some before ∧ before ≠ [] ∧
        stemOf name = before.reverse := by
  unfold stemOf
  split
  · exact Or.inl rfl
  · exact Or.inl rfl
  · exact Or.inl rfl
  · rename_i before _ hne hcut
    right
    exact ⟨before, by rw [hcut], hne, rfl⟩

/-- A stem has no characters of its own. -/
theorem mem_of_mem_stemOf {name : Text} {c : Char} (h : c ∈ stemOf name) : c ∈ name := by
  rcases stemOf_eq name with hsame | ⟨before, hbefore, -, hstem⟩
  · rwa [hsame] at h
  · rw [hstem, List.mem_reverse] at h
    exact List.mem_reverse.mp (Text.mem_of_mem_splitAtFirst_snd hbefore h)

/-- The stem of a name is not empty. -/
theorem stemOf_ne_nil {name : Text} (h : name ≠ []) : stemOf name ≠ [] := by
  rcases stemOf_eq name with hsame | ⟨before, -, hne, hstem⟩
  · rwa [hsame]
  · rw [hstem]
    simpa using hne

/-- A text without slashes spells one name, or none when it is a dot. -/
theorem ofText_of_slash_not_mem {text : Text} (hempty : text ≠ []) (hslash : '/' ∉ text) :
    ofText text = ⟨.workingDirectory, if text = ['.'] then [] else [text]⟩ := by
  have hhead : text.head? ≠ some '/' := fun hfirst => hslash (List.mem_of_mem_head? hfirst)
  have hanchor : anchorOf text = .workingDirectory := anchorOf_append .workingDirectory hhead
  rw [ofText, hanchor]
  by_cases hdot : text = ['.']
  · subst hdot
    decide
  · have hstep : ∀ name ∈ [text], IsStep name := by
      intro name hname
      rw [List.mem_singleton.mp hname]
      exact ⟨hempty, hdot, hslash⟩
    have hparts := partsOf_join hstep
    rw [Text.join_singleton] at hparts
    rw [hparts, if_neg hdot]

end Path

namespace Conversion

variable {input : Input} {output : Output} {logger : Logger} {tree after : FileTree}
  {source : Path} {outcome : Outcome}

/-! ## One command file -/

/-- When a file is converted, its commands are in its command file. -/
theorem Converting.written_of_ok (h : Converting output tree source after outcome)
    (hok : outcome.ok = true) :
    ∃ commands, commandsOf tree source = .ok commands ∧
      outcome = writtenOutcome source (output.path source) commands.length ∧
      after.read (output.path source) = .ok (Output.stored commands) := by
  cases h with
  | unscanned h => cases hok
  | unwritten h hwrite => cases hok
  | written h hwrite =>
    rcases Output.read_of_write_eq_ok hwrite with ⟨rfl, hread⟩
    exact ⟨_, h, rfl, hread⟩

/-! ## Shared command files -/

/-- Where the commands of a file go, for an ending without slashes. -/
theorem destination_outputPath (tree : FileTree) (hsuffix : '/' ∉ output.suffix)
    (hname : Path.IsStep source.name) :
    tree.destination (output.path source) =
      if source.stem ++ output.suffix = ['.'] then tree.destination output.directory
      else FileTree.follow (tree.destination output.directory) (source.stem ++ output.suffix) := by
  have hempty : source.stem ++ output.suffix ≠ [] :=
    List.append_ne_nil_of_left_ne_nil (Path.stemOf_ne_nil hname.ne_nil) _
  have hslash : '/' ∉ source.stem ++ output.suffix := by
    rw [List.mem_append, not_or]
    exact ⟨fun hmem => hname.slash_not_mem (Path.mem_of_mem_stemOf hmem), hsuffix⟩
  rw [Output.path, Path.ofText_of_slash_not_mem hempty hslash, Path.join]
  dsimp only
  rw [FileTree.destination_append]
  split
  · rfl
  · rfl

/-- One step from a directory leads elsewhere for every other name, the root apart. -/
theorem eq_of_step_eq {here : Location} {name other : Text}
    (h : (if name = ['.'] then here else FileTree.follow here name) =
      if other = ['.'] then here else FileTree.follow here other)
    (hroot : (if name = ['.'] then here else FileTree.follow here name) ≠ []) :
    name = other := by
  unfold FileTree.follow at h hroot
  have hlength := congrArg List.length h
  by_cases hdot : name = ['.']
  · rw [if_pos hdot] at hroot hlength
    have hlong := List.length_pos_iff.mpr hroot
    by_cases hdot' : other = ['.']
    · rw [hdot, hdot']
    · rw [if_neg hdot'] at hlength
      split at hlength
      · rw [List.length_dropLast] at hlength
        omega
      · rw [List.length_append, List.length_singleton] at hlength
        omega
  · rw [if_neg hdot] at h hroot hlength
    by_cases hup : name = FileTree.upward
    · rw [if_pos hup] at hroot hlength
      have hlong := List.length_pos_iff.mpr hroot
      rw [List.length_dropLast] at hlong hlength
      by_cases hdot' : other = ['.']
      · rw [if_pos hdot'] at hlength
        omega
      · rw [if_neg hdot'] at hlength
        by_cases hup' : other = FileTree.upward
        · rw [hup, hup']
        · rw [if_neg hup', List.length_append, List.length_singleton] at hlength
          omega
    · rw [if_neg hup] at h hlength
      rw [List.length_append, List.length_singleton] at hlength
      by_cases hdot' : other = ['.']
      · rw [if_pos hdot'] at hlength
        omega
      · rw [if_neg hdot'] at h hlength
        by_cases hup' : other = FileTree.upward
        · rw [if_pos hup', List.length_dropLast] at hlength
          omega
        · rw [if_neg hup'] at h
          exact List.singleton_inj.mp (List.append_cancel_left h)

/-- With an ending without slashes, the commands of two files go to one place only when the
files share their stem. -/
theorem destination_eq_iff_stem_eq {other : Path} (hsuffix : '/' ∉ output.suffix)
    (hname : Path.IsStep source.name) (hother : Path.IsStep other.name)
    (hroot : tree.destination (output.path source) ≠ []) :
    tree.destination (output.path source) = tree.destination (output.path other) ↔
      source.stem = other.stem := by
  constructor
  · intro hsame
    rw [destination_outputPath tree hsuffix hname] at hsame hroot
    rw [destination_outputPath tree hsuffix hother] at hsame
    exact List.append_cancel_right (eq_of_step_eq hsame hroot)
  · intro hstem
    rw [Output.path, Output.path, hstem]

/-! ## All command files -/

/-- A converted file has its commands in its command file, unless a later one is converted whose
commands go to the same place.  With an ending without slashes, these are the files that share
its stem. -/
theorem outputs_kept {report : Report}
    (hreport : (convertAll input output logger tree).result = .ok report) :
    report.outcomes = (course input output logger tree).map Turn.outcome ∧
      (∀ earlier turn later, course input output logger tree = earlier ++ turn :: later →
        turn.outcome.ok = true →
        ∃ content commands, Input.read turn.before turn.source = .ok content ∧
          Script.commands content = .ok commands ∧
          turn.outcome = writtenOutcome turn.source (output.path turn.source) commands.length ∧
          ((∀ other ∈ later, other.outcome.ok = true →
              tree.destination (output.path other.source) ≠
                tree.destination (output.path turn.source)) →
            (convertAll input output logger tree).tree.read (output.path turn.source) =
              .ok (Output.stored commands))) ∧
      (tree.WellFormed → '/' ∉ output.suffix →
        ∀ turn ∈ course input output logger tree, ∀ other ∈ course input output logger tree,
          turn.outcome.ok = true →
          (tree.destination (output.path turn.source) =
              tree.destination (output.path other.source) ↔
            turn.source.stem = other.source.stem)) := by
  rcases convertAll_eq_ok_iff.mp hreport with ⟨paths, hfiles, rfl⟩
  rw [course_of_files hfiles]
  refine ⟨rfl, ?_, ?_⟩
  · intro earlier turn later hsplit hok
    have hmem : turn ∈ turns output logger tree paths := by
      rw [hsplit]
      exact List.mem_append_right earlier List.mem_cons_self
    rcases (converting_of_mem_turns hmem).written_of_ok hok with
      ⟨commands, hcommands, houtcome, hstored⟩
    rcases commandsOf_eq_ok.mp hcommands with ⟨content, hcontent, hscan⟩
    refine ⟨content, commands, hcontent, hscan, houtcome, fun hfree => ?_⟩
    rcases convertFiles_tree_of_turns_eq_append hsplit with ⟨back, rfl, hfinal⟩
    rcases FileTree.read_eq_ok.mp hstored with ⟨place, hlocate, hplace⟩
    have hgrows := grows_after_of_mem_turns hmem
    rw [(convertAll_of_files hfiles).1, hfinal]
    apply (grows_convertFiles output logger turn.after back).read_eq_ok hstored
    rw [FileTree.destination_of_locate hlocate, hplace]
    apply entryAt_convertFiles_file output logger hplace
    intro other hother hwritten
    rw [← FileTree.destination_of_locate hlocate, hgrows.destination, hgrows.destination]
    exact hfree other hother hwritten
  · intro hwf hsuffix turn hturn other hother hok
    have hroot : tree.destination (output.path turn.source) ≠ [] := by
      rcases (converting_of_mem_turns hturn).written_of_ok hok with ⟨commands, -, -, hstored⟩
      rcases FileTree.read_eq_ok.mp hstored with ⟨place, hlocate, hplace⟩
      rw [← (grows_after_of_mem_turns hturn).destination, FileTree.destination_of_locate hlocate]
      rintro rfl
      cases hplace
    exact destination_eq_iff_stem_eq hsuffix
      (Input.isStep_of_mem_files hwf hfiles (mem_of_mem_turns hturn))
      (Input.isStep_of_mem_files hwf hfiles (mem_of_mem_turns hother)) hroot

/-- A directory with two feature files that share their stem. -/
def collidingTree : FileTree :=
  { entries := ⟨[(["f".toList], .directory),
      (["f".toList, "a.feature".toList], .file sampleScript),
      (["f".toList, "a.karate".toList],
        .file (Utf8.encode "* url 'http://h'\n* method delete\n".toList))]⟩ }

/-- All files of a directory {lit}`f`. -/
def anyInput : Input := { sampleInput with pattern := "*".toList }

theorem files_collidingTree :
    anyInput.files collidingTree =
      .ok [.ofText "f/a.feature".toList, .ofText "f/a.karate".toList] := by
  have hsteps : Glob.stepsOf "*".toList = .ok [.wild (Glob.pieces "*".toList)] := by
    decide +kernel
  have hfound : Glob.select collidingTree [.wild (Glob.pieces "*".toList)]
      anyInput.directory = .ok [.ofText "f/a.feature".toList, .ofText "f/a.karate".toList] := by
    decide +kernel
  exact Input.files_of_sorted (by decide +kernel) hsteps hfound (by decide +kernel)
    (by decide +kernel)

/-- The turns of the two files. -/
theorem course_collidingTree :
    ∃ first second, course anyInput sampleOutput {} collidingTree = [first, second] ∧
      first = ⟨collidingTree, .ofText "f/a.feature".toList,
        convertFile sampleOutput {} collidingTree (.ofText "f/a.feature".toList)⟩ ∧
      second = ⟨first.after, .ofText "f/a.karate".toList,
        convertFile sampleOutput {} first.after (.ofText "f/a.karate".toList)⟩ := by
  rw [course_of_files files_collidingTree]
  exact ⟨_, _, rfl, rfl, rfl⟩

theorem outputs_kept_collidingTree :
    (convertAll anyInput sampleOutput {} collidingTree).tree.read (.ofText "o/a.txt".toList) =
      .ok (Output.stored
        ["curl -X DELETE -H 'Accept: application/json' 'http://h'".toList]) := by
  rcases course_collidingTree with ⟨first, second, hcourse, hfirst, hsecond⟩
  have hok : second.outcome.ok = true := by
    rw [hsecond, hfirst]
    decide +kernel
  rcases (outputs_kept (convertAll_of_files files_collidingTree).2).2.1 [first] second [] hcourse
    hok with ⟨content, commands, hcontent, hscan, -, hkept⟩
  have hcommands : commandsOf second.before second.source =
      .ok ["curl -X DELETE -H 'Accept: application/json' 'http://h'".toList] := by
    rw [hsecond, hfirst]
    decide +kernel
  rw [commandsOf_eq_ok.mpr ⟨content, hcontent, hscan⟩] at hcommands
  cases hcommands
  have hpath : sampleOutput.path second.source = .ofText "o/a.txt".toList := by
    have hsource : second.source = .ofText "f/a.karate".toList := by rw [hsecond]
    rw [hsource]
    decide +kernel
  rw [hpath] at hkept
  apply hkept
  simp

/-- The commands of the first of two files that share their stem are lost. -/
theorem outputs_collide :
    ¬ ∀ (input : Input) (output : Output) (logger : Logger) (tree : FileTree) (report : Report),
      tree.WellFormed → (convertAll input output logger tree).result = .ok report →
      ∀ turn ∈ course input output logger tree, turn.outcome.ok = true →
        ∀ content commands, Input.read turn.before turn.source = .ok content →
          Script.commands content = .ok commands →
          (convertAll input output logger tree).tree.read (output.path turn.source) =
            .ok (Output.stored commands) := by
  intro hall
  rcases course_collidingTree with ⟨first, second, hcourse, hfirst, hsecond⟩
  have hmem : first ∈ course anyInput sampleOutput {} collidingTree := by
    rw [hcourse]
    exact List.mem_cons_self
  have hok : first.outcome.ok = true := by
    rw [hfirst]
    decide +kernel
  have hread := hall anyInput sampleOutput {} collidingTree _ (by decide +kernel)
    (convertAll_of_files files_collidingTree).2 first hmem hok
    "* url 'http://h'\n* method get\n".toList
    ["curl -X GET -H 'Accept: application/json' 'http://h'".toList]
    (by rw [hfirst]; decide +kernel) (by decide +kernel)
  rw [(convertAll_of_files files_collidingTree).1, hfirst] at hread
  revert hread
  decide +kernel

end Conversion
end RequestScript

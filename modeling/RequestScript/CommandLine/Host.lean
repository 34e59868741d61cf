import RequestScript.FileTree

/-!
# Hosts

A program is run on a host, and some of what it does depends on where that is.  Its
output encodes what is written to it.  A text with a character that it has no octets
for is not written at all, and the program meets a fault.  The reader of settings
files has its own words for what is wrong in them.

Every output takes the ASCII characters, and a fault about a text that is not taken
is worded in them.  So a program can always tell of that fault.  Nothing else that
can happen to an output is told here: it is neither closed nor full.  What is written
is told as the text that is handed to the output, before it is encoded.

Main results:

- Definition {lit}`Host.plain`: the host whose output takes every text.
- Definition {lit}`Host.utf8`: the hosts whose output is UTF-8.
-/

namespace RequestScript

/-- What a program is run on. -/
structure Host where
  /-- Whether the output takes a character. -/
  takes : Char → Bool
  /-- The wording of the fault that a text raises which the output does not take. -/
  complaint : Text → Text
  /-- What is wrong in a settings file that is not YAML. -/
  reason : Path → Text
  takes_of_ascii : ∀ c : Char, c.toNat < 0x80 → takes c = true
  isAscii_complaint : ∀ text, Text.isAscii (complaint text) = true

namespace Host

/-- Whether the output takes a text. -/
def takesText (host : Host) (text : Text) : Bool :=
  text.all host.takes

/-- Two texts are taken together exactly when each of them is. -/
@[simp]
theorem takesText_append (host : Host) (front back : Text) :
    host.takesText (front ++ back) = (host.takesText front && host.takesText back) := by
  simp [takesText]

/-- Every output takes what is ASCII. -/
theorem takesText_of_isAscii (host : Host) {text : Text} (h : Text.isAscii text = true) :
    host.takesText text = true := by
  rw [takesText, List.all_eq_true]
  intro c hc
  exact host.takes_of_ascii c (of_decide_eq_true (List.all_eq_true.mp h c hc))

/-- A text is not taken exactly when one of its characters is not. -/
theorem takesText_eq_false {host : Host} {text : Text} :
    host.takesText text = false ↔ ∃ c ∈ text, host.takes c = false := by
  simp [takesText, List.all_eq_false]

/-! ## Usual hosts -/

/-- A host whose output takes every text, and whose reader of settings files does not
say what is wrong. -/
def plain : Host where
  takes _ := true
  complaint _ := []
  reason _ := []
  takes_of_ascii _ _ := rfl
  isAscii_complaint _ := rfl

@[simp]
theorem takesText_plain (text : Text) : plain.takesText text = true := by
  simp [takesText, plain]

/-- Where every text is taken, none is held back. -/
theorem takeWhile_takesText_plain (texts : List Text) :
    texts.takeWhile plain.takesText = texts := by
  induction texts with
  | nil => rfl
  | cons text texts ih => rw [List.takeWhile_cons, takesText_plain, if_pos rfl, ih]

/-- Whether UTF-8 has no octets for a character.  An output that lets octets pass
writes an octet of no character as it was found. -/
def isUnencodable (passesOctets : Bool) (c : Char) : Bool :=
  Text.isStandIn c && !(passesOctets && FileTree.isOctet c)

/-- What is said about a text that UTF-8 has no octets for: where the first
characters are that it can not encode. -/
def utf8Complaint (passesOctets : Bool) (text : Text) : Text :=
  match text.findIdx? (isUnencodable passesOctets) with
  | some place =>
    FileTree.Fault.message (.unencodable place ((text.drop place).takeWhile Text.isStandIn))
  | none => []

/-- What is said about a text is ASCII whatever the text is. -/
theorem isAscii_utf8Complaint (passesOctets : Bool) (text : Text) :
    Text.isAscii (utf8Complaint passesOctets text) = true := by
  rw [utf8Complaint]
  split
  · exact FileTree.isAscii_unencodable _ _
  · rfl

/-- A host whose output is UTF-8, and whether it lets octets pass. -/
def utf8 (passesOctets : Bool) (reason : Path → Text) : Host where
  takes c := !isUnencodable passesOctets c
  complaint := utf8Complaint passesOctets
  reason
  takes_of_ascii c h := by
    have hno : Text.isStandIn c = false := by
      simp only [Text.isStandIn, Bool.and_eq_false_iff, decide_eq_false_iff_not]
      omega
    rw [isUnencodable, hno]
    rfl
  isAscii_complaint := isAscii_utf8Complaint passesOctets

example : (utf8 false fun _ => []).complaint ['a', Text.standInFor 0xDCFF] =
    "'utf-8' codec can't encode character '\\udcff' in position 1: surrogates not allowed".toList := by
  decide +kernel
example : (utf8 true fun _ => []).takesText ['a', Text.standInFor 0xDCFF] = true := by
  decide +kernel

end Host

end RequestScript

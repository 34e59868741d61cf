import RequestScript.Text.Blank

/-!
# Words and margins

The words of a text are found again after texts are put together, as long as a
blank stands between them, and trimming touches the margins of a text only.  A line
that is printed from words and blanks is therefore read back word by word.

Main results:

- Theorem {lit}`words_append`: the words of two texts that meet at a blank.
- Theorem {lit}`isWord_of_mem_words`: words are not empty and hold no blank.
- Theorem {lit}`splitAtFirst_append`: a text is split where the separator was
  put in.
- Theorem {lit}`stripEnd_append_cons`: stripping the end stops at a character that is
  not of the class.
- Theorem {lit}`IsWord.trim_append`: a word in front keeps its place when a text is
  trimmed.
-/

namespace RequestScript
namespace Text

/-! ## Classes of texts -/

/-- A word: not empty, and without blanks. -/
def IsWord (text : Text) : Prop :=
  text ≠ [] ∧ ∀ c ∈ text, isBlank c = false

/-- A gap between words: not empty, and nothing but blanks. -/
def IsGap (text : Text) : Prop :=
  text ≠ [] ∧ ∀ c ∈ text, isBlank c = true

/-- A text that goes on after a word without making it longer. -/
def Detached (text : Text) : Prop :=
  ∀ c ∈ text.head?, isBlank c = true

/-- A rule about the characters of a text is checked on these characters, not on all. -/
instance (priority := high) decidableForallMem (p : Char → Prop) [DecidablePred p] (text : Text) :
    Decidable (∀ c ∈ text, p c) :=
  List.decidableBAll p text

instance (text : Text) : Decidable (IsWord text) :=
  inferInstanceAs (Decidable (_ ∧ _))

instance (text : Text) : Decidable (IsGap text) :=
  inferInstanceAs (Decidable (_ ∧ _))

theorem detached_nil : Detached [] := by
  simp [Detached]

/-- A text that begins with a blank is detached. -/
theorem detached_cons {c : Char} (hc : isBlank c = true) (text : Text) : Detached (c :: text) := by
  simpa [Detached] using hc

/-- A text behind a gap is detached. -/
theorem IsGap.detached_append {gap : Text} (h : IsGap gap) (text : Text) :
    Detached (gap ++ text) := by
  rcases h with ⟨hne, hblank⟩
  cases gap with
  | nil => exact absurd rfl hne
  | cons c rest => exact detached_cons (hblank c List.mem_cons_self) (rest ++ text)

theorem isGap_space : IsGap [' '] := by
  simp [IsGap]

/-- A word holds no blank. -/
theorem IsWord.not_mem_of_isBlank {word : Text} (h : IsWord word) {c : Char}
    (hc : isBlank c = true) : c ∉ word := by
  intro hmem
  have hfalse := h.2 c hmem
  simp [hc] at hfalse

/-- Blanks hold no other characters. -/
theorem not_mem_of_blanks {blanks : Text} (h : ∀ c ∈ blanks, isBlank c = true) {c : Char}
    (hc : isBlank c = false) : c ∉ blanks := by
  intro hmem
  rw [h c hmem] at hc
  cases hc

/-- No blank is an equals sign. -/
theorem equals_not_mem_of_blanks {blanks : Text} (h : ∀ c ∈ blanks, isBlank c = true) :
    '=' ∉ blanks :=
  not_mem_of_blanks h (by decide)

/-- Blanks alone are detached. -/
theorem detached_of_blanks {blanks : Text} (h : ∀ c ∈ blanks, isBlank c = true) :
    Detached blanks :=
  fun c hc => h c (List.mem_of_mem_head? hc)

/-! ## Words -/

@[simp]
theorem words_nil : words [] = [] := rfl

/-- A blank separates words, so the words before and after it are those of the whole. -/
theorem words_append_cons (a b : Text) {c : Char} (hc : isBlank c = true) :
    words (a ++ c :: b) = words a ++ words b := by
  rw [words, List.splitOnP_append_cons a b hc, List.filter_append]
  rfl

/-- A blank in front adds no word. -/
theorem words_cons_of_isBlank {c : Char} (hc : isBlank c = true) (text : Text) :
    words (c :: text) = words text := by
  have h := words_append_cons [] text hc
  simpa using h

/-- Two texts that meet at a blank have the words of both. -/
theorem words_append (a : Text) {b : Text} (hb : Detached b) :
    words (a ++ b) = words a ++ words b := by
  cases b with
  | nil => simp
  | cons c rest =>
    have hc : isBlank c = true := hb c rfl
    rw [words_append_cons a rest hc, words_cons_of_isBlank hc]

/-- Blanks in front add no words. -/
theorem words_blanks_append {blanks : Text} (h : ∀ c ∈ blanks, isBlank c = true) (text : Text) :
    words (blanks ++ text) = words text := by
  induction blanks with
  | nil => rfl
  | cons c rest ih =>
    rw [List.cons_append, words_cons_of_isBlank (h c List.mem_cons_self)]
    exact ih fun d hd => h d (List.mem_cons_of_mem c hd)

/-- A word is the only word of itself. -/
theorem words_eq_singleton {word : Text} (h : IsWord word) : words word = [word] := by
  have hsplit : word.splitOnP isBlank = [word] := List.splitOnP_eq_singleton h.2
  simp [words, hsplit, h.1]

/-- A word in front is the first word. -/
theorem words_word_append {word rest : Text} (h : IsWord word) (hrest : Detached rest) :
    words (word ++ rest) = word :: words rest := by
  rw [words_append word hrest, words_eq_singleton h, List.singleton_append]

/-- A word with something detached behind it is the first word. -/
theorem firstWord_word_append {word rest : Text} (h : IsWord word) (hrest : Detached rest) :
    firstWord (word ++ rest) = word := by
  rw [firstWord, words_word_append h hrest, List.headD_cons]

/-- The pieces of a split text consist of its characters and hold no separator. -/
theorem mem_of_mem_splitOnP {p : Char → Bool} {text piece : Text}
    (h : piece ∈ text.splitOnP p) : ∀ c ∈ piece, c ∈ text ∧ p c = false := by
  induction text generalizing piece with
  | nil => simp_all
  | cons d rest ih =>
    intro c hc
    rw [List.splitOnP_cons_eq_if_modifyHead] at h
    split at h
    · rcases List.mem_cons.mp h with rfl | h
      · simp at hc
      · exact ⟨List.mem_cons_of_mem d (ih h c hc).1, (ih h c hc).2⟩
    · rename_i hd
      rcases List.exists_cons_of_ne_nil (List.splitOnP_ne_nil p rest) with ⟨first, others, hrest⟩
      rw [hrest] at h ih
      rw [List.modifyHead_cons] at h
      rcases List.mem_cons.mp h with rfl | h
      · rcases List.mem_cons.mp hc with rfl | hc
        · exact ⟨List.mem_cons_self, by simpa using hd⟩
        · have hfirst := ih List.mem_cons_self c hc
          exact ⟨List.mem_cons_of_mem d hfirst.1, hfirst.2⟩
      · have hother := ih (List.mem_cons_of_mem first h) c hc
        exact ⟨List.mem_cons_of_mem d hother.1, hother.2⟩

/-- The words of a text are words. -/
theorem isWord_of_mem_words {text word : Text} (h : word ∈ words text) : IsWord word := by
  rw [words, List.mem_filter] at h
  rcases h with ⟨hpiece, hne⟩
  exact ⟨by simpa using hne, fun c hc => (mem_of_mem_splitOnP hpiece c hc).2⟩

/-- The words of a text consist of its characters. -/
theorem mem_of_mem_words {text word : Text} (h : word ∈ words text) {c : Char} (hc : c ∈ word) :
    c ∈ text := by
  rw [words, List.mem_filter] at h
  exact (mem_of_mem_splitOnP h.1 c hc).1

/-! ## Splitting at a separator -/

/-- A text is split behind a part that has no separator. -/
theorem splitAtFirst_append {separator : Char} {a : Text} (ha : separator ∉ a) (b : Text) :
    splitAtFirst separator (a ++ separator :: b) = (a, some b) := by
  induction a with
  | nil => simp
  | cons c rest ih =>
    have hc : c ≠ separator := fun h => ha (h ▸ List.mem_cons_self)
    have hrest : separator ∉ rest := fun h => ha (List.mem_cons_of_mem c h)
    rw [List.cons_append, splitAtFirst_cons_ne hc, ih hrest]

/-- Text without the separator in front only moves the split. -/
theorem splitAtFirst_append_left {separator : Char} {a : Text} (ha : separator ∉ a) (b : Text) :
    splitAtFirst separator (a ++ b) =
      (a ++ (splitAtFirst separator b).1, (splitAtFirst separator b).2) := by
  induction a with
  | nil => rfl
  | cons c rest ih =>
    have hc : c ≠ separator := fun h => ha (h ▸ List.mem_cons_self)
    have hrest : separator ∉ rest := fun h => ha (List.mem_cons_of_mem c h)
    rw [List.cons_append, splitAtFirst_cons_ne hc, ih hrest, List.cons_append]

/-- The part before a separator holds no separator. -/
theorem not_mem_splitAtFirst_fst (separator : Char) (text : Text) :
    separator ∉ (splitAtFirst separator text).1 := by
  induction text with
  | nil => simp
  | cons c rest ih =>
    by_cases hc : c = separator
    · subst hc
      simp
    · rw [splitAtFirst_cons_ne hc]
      intro hmem
      rcases List.mem_cons.mp hmem with h | h
      · exact hc h.symm
      · exact ih h

/-- Splitting brings no characters into the part behind the separator. -/
theorem mem_of_mem_splitAtFirst_snd {separator : Char} {text after : Text}
    (h : (splitAtFirst separator text).2 = some after) {c : Char} (hc : c ∈ after) : c ∈ text := by
  induction text with
  | nil => simp at h
  | cons d rest ih =>
    by_cases hd : d = separator
    · rw [hd, splitAtFirst_cons_eq, Option.some.injEq] at h
      exact List.mem_cons_of_mem d (h ▸ hc)
    · rw [splitAtFirst_cons_ne hd] at h
      exact List.mem_cons_of_mem d (ih h)

/-! ## Margins -/

@[simp]
theorem stripEnd_nil (p : Char → Bool) : stripEnd p [] = [] := rfl

/-- Nothing in front of a character that stays is stripped. -/
theorem stripEnd_append_cons {p : Char → Bool} {c : Char} (hc : p c = false) (a b : Text) :
    stripEnd p (a ++ c :: b) = a ++ c :: stripEnd p b := by
  have hlast : (b.reverse ++ c :: a.reverse).dropWhile p =
      b.reverse.dropWhile p ++ c :: a.reverse := by
    induction b.reverse with
    | nil => simp [hc]
    | cons d rest ih =>
      by_cases hd : p d = true
      · simpa [hd] using ih
      · simp [hd]
  simp [stripEnd, hlast]

/-- A text that ends with a character that stays is not stripped. -/
theorem stripEnd_eq_self {p : Char → Bool} {text : Text} (h : ∀ c ∈ text.getLast?, p c = false) :
    stripEnd p text = text := by
  rcases List.eq_nil_or_concat text with rfl | ⟨front, c, rfl⟩
  · rfl
  · have hc : p c = false := h c (by simp)
    have hstrip := stripEnd_append_cons hc front []
    simpa [stripEnd] using hstrip

/-- Stripping the end leaves a front part. -/
theorem stripEnd_isPrefix (p : Char → Bool) (text : Text) : stripEnd p text <+: text := by
  have h : text.reverse.dropWhile p <:+ text.reverse := List.dropWhile_suffix p
  have h' := List.reverse_prefix.mpr h
  simpa [stripEnd] using h'

/-- Stripping brings no characters into a text. -/
theorem mem_of_mem_strip {p : Char → Bool} {text : Text} {c : Char} (h : c ∈ strip p text) :
    c ∈ text :=
  (List.dropWhile_suffix p).subset ((stripEnd_isPrefix p (text.dropWhile p)).subset h)

/-- A text that begins with a character that stays loses nothing there. -/
theorem dropWhile_eq_self {p : Char → Bool} {text : Text} (h : ∀ c ∈ text.head?, p c = false) :
    text.dropWhile p = text := by
  cases text with
  | nil => rfl
  | cons c rest => simp [h c rfl]

/-- A text whose ends are not of the class is not changed by stripping. -/
theorem strip_eq_self {p : Char → Bool} {text : Text} (hhead : ∀ c ∈ text.head?, p c = false)
    (hlast : ∀ c ∈ text.getLast?, p c = false) : strip p text = text := by
  rw [strip, dropWhile_eq_self hhead, stripEnd_eq_self hlast]

/-- What is left begins with a character that stays. -/
theorem head?_dropWhile_not {p : Char → Bool} {text : Text} {c : Char}
    (h : c ∈ (text.dropWhile p).head?) : p c = false := by
  induction text with
  | nil => simp at h
  | cons d rest ih =>
    by_cases hd : p d = true
    · exact ih (by simpa [hd] using h)
    · have hcd : d = c := by simpa [hd] using h
      subst hcd
      simpa using hd

/-- A stripped text does not end in a character of the class. -/
theorem getLast?_stripEnd {p : Char → Bool} {text : Text} {c : Char}
    (h : c ∈ (stripEnd p text).getLast?) : p c = false := by
  rw [stripEnd, List.getLast?_reverse] at h
  exact head?_dropWhile_not h

/-- A stripped text does not begin with a character of the class. -/
theorem head?_strip {p : Char → Bool} {text : Text} {c : Char}
    (h : c ∈ (strip p text).head?) : p c = false := by
  have hprefix := stripEnd_isPrefix p (text.dropWhile p)
  have hhead : c ∈ (text.dropWhile p).head? := by
    rw [strip] at h
    rcases hprefix with ⟨rest, hrest⟩
    cases hs : stripEnd p (text.dropWhile p) with
    | nil => simp [hs] at h
    | cons d front =>
      rw [hs] at h hrest
      rw [← hrest]
      simpa using h
  exact head?_dropWhile_not hhead

@[simp]
theorem strip_strip (p : Char → Bool) (text : Text) : strip p (strip p text) = strip p text :=
  strip_eq_self (fun _ h => head?_strip h) (fun _ h => getLast?_stripEnd h)

@[simp]
theorem trim_trim (text : Text) : trim (trim text) = trim text :=
  strip_strip isBlank text

/-- A blank in front is trimmed. -/
theorem trim_cons_of_isBlank {c : Char} (hc : isBlank c = true) (text : Text) :
    trim (c :: text) = trim text := by
  simp [trim, strip, hc]

/-- The first character is stripped only if it is to go and nothing behind it stays. -/
theorem stripEnd_cons (p : Char → Bool) (c : Char) (rest : Text) :
    stripEnd p (c :: rest) =
      if p c = true ∧ stripEnd p rest = [] then [] else c :: stripEnd p rest := by
  by_cases hc : p c = true
  · rcases List.eq_nil_or_concat (stripEnd p rest) with hnil | ⟨front, d, hfront⟩
    · have hall : rest.reverse.dropWhile p = [] := by simpa [stripEnd] using hnil
      rw [if_pos ⟨hc, hnil⟩]
      simp [stripEnd, List.dropWhile_append, hall, hc]
    · have hall : (rest.reverse.dropWhile p).isEmpty = false := by
        have hne : stripEnd p rest ≠ [] := by simp [hfront]
        simpa [stripEnd] using hne
      rw [if_neg (by simp [hfront])]
      simp [stripEnd, List.dropWhile_append, hall]
  · rw [if_neg fun h => hc h.1]
    exact stripEnd_append_cons (by simpa using hc) [] rest

/-- It does not matter which end is stripped first. -/
theorem dropWhile_stripEnd (p : Char → Bool) (text : Text) :
    (stripEnd p text).dropWhile p = strip p text := by
  induction text with
  | nil => rfl
  | cons c rest ih =>
    by_cases hc : p c = true
    · have hdrop : strip p (c :: rest) = strip p rest := by simp [strip, hc]
      rw [hdrop, ← ih, stripEnd_cons]
      split
      · rename_i h
        simp [h.2]
      · simp [hc]
    · have hc' : p c = false := by simpa using hc
      have hfront := stripEnd_append_cons hc' [] rest
      simp only [List.nil_append] at hfront
      rw [strip, hfront]
      simp [hc', hfront]

/-- To strip the end first makes no difference to trimming. -/
theorem trim_stripEnd (text : Text) : trim (stripEnd isBlank text) = trim text := by
  have hstrip : stripEnd isBlank (strip isBlank text) = strip isBlank text :=
    stripEnd_eq_self fun _ h => getLast?_stripEnd h
  rw [trim, strip, dropWhile_stripEnd, hstrip, trim]

/-- Blanks at the end are stripped. -/
theorem stripEnd_append_blanks {blanks : Text} (h : ∀ c ∈ blanks, isBlank c = true) (text : Text) :
    stripEnd isBlank (text ++ blanks) = stripEnd isBlank text := by
  have hreverse : ∀ c ∈ blanks.reverse, isBlank c = true :=
    fun c hc => h c (List.mem_reverse.mp hc)
  rw [stripEnd, List.reverse_append, List.dropWhile_append_of_pos hreverse, stripEnd]

/-- Blanks around a text are trimmed away. -/
theorem trim_blanks_append {front back : Text} (hfront : ∀ c ∈ front, isBlank c = true)
    (hback : ∀ c ∈ back, isBlank c = true) (text : Text) :
    trim (front ++ (text ++ back)) = trim text := by
  rw [trim, strip, List.dropWhile_append_of_pos hfront, ← strip, ← trim, ← trim_stripEnd,
    stripEnd_append_blanks hback, trim_stripEnd]

/-! ## Margins of words and of long texts -/

/-- Only what stands behind the last character that stays is stripped. -/
theorem stripEnd_append {p : Char → Bool} {a : Text} {c : Char} (hlast : a.getLast? = some c)
    (hc : p c = false) (b : Text) : stripEnd p (a ++ b) = a ++ stripEnd p b := by
  rcases List.getLast?_eq_some_iff.mp hlast with ⟨front, rfl⟩
  rw [List.append_assoc, List.singleton_append, stripEnd_append_cons hc, List.append_assoc,
    List.singleton_append]

/-- A word ends with a character that is no blank. -/
theorem IsWord.exists_getLast? {word : Text} (h : IsWord word) :
    ∃ c, word.getLast? = some c ∧ isBlank c = false := by
  rcases Option.ne_none_iff_exists'.mp (mt List.getLast?_eq_none_iff.mp h.1) with ⟨c, hc⟩
  exact ⟨c, hc, h.2 c (List.mem_of_getLast? hc)⟩

/-- A word in front of a text is not stripped. -/
theorem IsWord.stripEnd_append {word : Text} (h : IsWord word) (rest : Text) :
    stripEnd isBlank (word ++ rest) = word ++ stripEnd isBlank rest := by
  rcases h.exists_getLast? with ⟨c, hlast, hc⟩
  exact Text.stripEnd_append hlast hc rest

/-- A detached text stays detached when its end is stripped. -/
theorem Detached.stripEnd {text : Text} (h : Detached text) : Detached (stripEnd isBlank text) := by
  intro c hc
  rcases stripEnd_isPrefix isBlank text with ⟨rest, hrest⟩
  apply h c
  rw [← hrest, List.head?_append, Option.mem_def.mp hc]
  rfl

/-- Trimming a text that begins with a word trims the end of what follows. -/
theorem IsWord.trim_append {word : Text} (h : IsWord word) (rest : Text) :
    trim (word ++ rest) = word ++ stripEnd isBlank rest := by
  have hhead : ∀ c ∈ (word ++ rest).head?, isBlank c = false := by
    intro c hc
    cases word with
    | nil => exact absurd rfl h.1
    | cons d word =>
      obtain rfl : d = c := by simpa using hc
      exact h.2 d List.mem_cons_self
  rw [trim, strip, dropWhile_eq_self hhead, h.stripEnd_append]

/-- Dropping from the front stops at a character that stays, so what follows it is left. -/
theorem cons_stripEnd_suffix_dropWhile {p : Char → Bool} {c : Char} (hc : p c = false)
    (a b : Text) : c :: b <:+ (a ++ c :: b).dropWhile p := by
  induction a with
  | nil =>
    have hsame : (c :: b).dropWhile p = c :: b := dropWhile_eq_self (by simpa using hc)
    rw [List.nil_append]
    exact hsame.symm ▸ List.suffix_refl (c :: b)
  | cons d a ih =>
    by_cases hd : p d = true
    · rw [List.cons_append, List.dropWhile_cons_of_pos hd]
      exact ih
    · rw [List.cons_append, List.dropWhile_cons_of_neg hd]
      exact List.suffix_append (d :: a) (c :: b)

/-- A text is longer when trimmed than what comes after any of its characters that is not
blank. -/
theorem length_trim_lt {c : Char} (hc : isBlank c = false) (a b : Text) :
    (trim b).length < (trim (a ++ c :: b)).length := by
  have hlong : c :: stripEnd isBlank b <:+ trim (a ++ c :: b) := by
    rw [trim, ← dropWhile_stripEnd, stripEnd_append_cons hc]
    exact cons_stripEnd_suffix_dropWhile hc a (stripEnd isBlank b)
  have hshort : trim b <:+ stripEnd isBlank b := by
    rw [trim, ← dropWhile_stripEnd]
    exact List.dropWhile_suffix isBlank
  have hlongLength := hlong.length_le
  have hshortLength := hshort.length_le
  rw [List.length_cons] at hlongLength
  omega

end Text
end RequestScript

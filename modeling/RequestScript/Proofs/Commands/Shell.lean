import RequestScript.Proofs.Commands.Decoding

/-!
# What a shell makes of a command

A shell cuts a command into words at the blanks that stand outside of quotes.  Between
single quotes every character stands for itself, a backslash too, up to the next single
quote; outside of quotes a backslash makes the next character stand for itself.

All parts of a command but its method stand between single quotes, so the shell finds them
as they are as long as they hold no single quote.  The body may hold one, and then the
backslash that escapes it does not help: it stands between quotes, so it goes into the word
itself, and the quote after it ends the quoted text.  A body with a quote is therefore never
passed on, and with it the rest of the command is read on the wrong side of the quotes.

Main results:

- Definition {lit}`Shell.words`: the words that a shell finds.
- Theorem {lit}`Adds.append`: texts that begin with a blank are read one after another.
- Theorem {lit}`exists_settled_of_word`: a word that has been begun is only made longer.
- Theorem {lit}`words_render_iff`: when a shell finds the words that a command is meant to
  have.
-/

namespace RequestScript

open Text

namespace Shell

/-! ## Reading words -/

/-- How a shell reads the next character. -/
inductive Mode where
  | plain
  | quoted
  | escaped
deriving DecidableEq, Repr

/-- Where a shell stands: the words before, and the word that has been begun, if any. -/
structure State where
  mode : Mode := .plain
  words : List Text := []
  word : Option Text := none
deriving DecidableEq, Repr

namespace State

/-- The characters of the word that has been begun. -/
def begun (state : State) : Text :=
  state.word.getD []

/-- All words, the last one included. -/
def settled (state : State) : List Text :=
  state.words ++ state.word.toList

/-- A character that stands for itself goes on with the word or begins one. -/
def push (state : State) (c : Char) : State :=
  { state with word := some (state.begun ++ [c]) }

/-- The state in another mode, in a word. -/
def enter (state : State) (mode : Mode) : State :=
  { state with mode, word := some state.begun }

end State

/-- Read one character. -/
def step (state : State) (c : Char) : State :=
  match state.mode with
  | .plain =>
    if c = ' ' then ⟨.plain, state.settled, none⟩
    else if c = '\'' then state.enter .quoted
    else if c = '\\' then state.enter .escaped
    else state.push c
  | .quoted => if c = '\'' then state.enter .plain else state.push c
  | .escaped => { state.push c with mode := .plain }

/-- Read a text. -/
def run (state : State) (text : Text) : State :=
  text.foldl step state

/-- The words of a text; none when the text ends within quotes or after a backslash. -/
def words (text : Text) : Option (List Text) :=
  let last := run {} text
  if last.mode = .plain then some last.settled else none

@[simp]
theorem run_nil (state : State) : run state [] = state := rfl

@[simp]
theorem run_cons (state : State) (c : Char) (text : Text) :
    run state (c :: text) = run (step state c) text := rfl

/-- A shell reads two texts one after the other. -/
theorem run_append (state : State) (a b : Text) : run state (a ++ b) = run (run state a) b :=
  List.foldl_append

example : words "a 'b c'\\ d ''".toList = some ["a".toList, "b c d".toList, []] := by decide
example : words "it's".toList = none := by decide

/-! ## Parts of a text -/

/-- A character that has no meaning of its own outside of quotes, as all letters have none. -/
def IsPlain (c : Char) : Prop :=
  c ≠ ' ' ∧ c ≠ '\'' ∧ c ≠ '\\'

instance : DecidablePred IsPlain := fun c =>
  inferInstanceAs (Decidable (c ≠ ' ' ∧ c ≠ '\'' ∧ c ≠ '\\'))

/-- Plain characters go on with the word that has been begun. -/
theorem run_plain {text : Text} (h : ∀ c ∈ text, IsPlain c) (words : List Text) (word : Text) :
    run ⟨.plain, words, some word⟩ text = ⟨.plain, words, some (word ++ text)⟩ := by
  induction text generalizing word with
  | nil => simp
  | cons c text ih =>
    rcases List.forall_mem_cons.mp h with ⟨⟨hspace, hquote, hbackslash⟩, hlater⟩
    have hstep : step ⟨.plain, words, some word⟩ c = ⟨.plain, words, some (word ++ [c])⟩ := by
      simp [step, hspace, hquote, hbackslash, State.push, State.begun]
    rw [run_cons, hstep, ih hlater, List.append_assoc]
    rfl

/-- Between quotes all characters up to the next quote stand for themselves. -/
theorem run_quoted {text : Text} (h : '\'' ∉ text) (words : List Text) (word : Text) :
    run ⟨.quoted, words, some word⟩ text = ⟨.quoted, words, some (word ++ text)⟩ := by
  induction text generalizing word with
  | nil => simp
  | cons c text ih =>
    rw [List.mem_cons, not_or] at h
    rcases h with ⟨hquote, hlater⟩
    have hstep : step ⟨.quoted, words, some word⟩ c = ⟨.quoted, words, some (word ++ [c])⟩ := by
      simp [step, Ne.symm hquote, State.push, State.begun]
    rw [run_cons, hstep, ih hlater, List.append_assoc]
    rfl

/-- A quoted text after a blank is a word. -/
theorem run_quote {text : Text} (h : '\'' ∉ text) (words : List Text) :
    run ⟨.plain, words, none⟩ (Command.quote text) = ⟨.plain, words, some text⟩ := by
  have hopen : step ⟨.plain, words, none⟩ '\'' = ⟨.quoted, words, some []⟩ := rfl
  have hclose : step ⟨.quoted, words, some text⟩ '\'' = ⟨.plain, words, some text⟩ := rfl
  rw [Command.quote, List.cons_append, run_cons, hopen, run_append, run_quoted h,
    List.nil_append, run_cons, hclose, run_nil]

/-! ## Texts that add words -/

/-- A text adds words when it is read outside of quotes, whatever has been read before. -/
def Adds (text : Text) (added : List Text) : Prop :=
  ∀ state : State, state.mode = .plain →
    (run state text).mode = .plain ∧ (run state text).settled = state.settled ++ added

namespace Adds

/-- No text adds no word. -/
theorem nil : Adds [] [] := by
  intro state hmode
  simp [hmode]

/-- Texts are read one after another. -/
theorem append {a b : Text} {first second : List Text} (ha : Adds a first) (hb : Adds b second) :
    Adds (a ++ b) (first ++ second) := by
  intro state hmode
  rcases ha state hmode with ⟨hmode', hsettled⟩
  rcases hb (run state a) hmode' with ⟨hlast, hall⟩
  rw [run_append]
  exact ⟨hlast, by rw [hall, hsettled, List.append_assoc]⟩

/-- Texts one after another add their words one after another. -/
theorem flatMap {α : Type} {items : List α} {text : α → Text} {added : α → List Text}
    (h : ∀ item ∈ items, Adds (text item) (added item)) :
    Adds (items.flatMap text) (items.flatMap added) := by
  induction items with
  | nil => exact nil
  | cons item items ih =>
    rcases List.forall_mem_cons.mp h with ⟨hhere, hlater⟩
    exact hhere.append (ih hlater)

/-- After a blank a text is read from the start of a word. -/
theorem of_run {text word : Text}
    (h : ∀ words, run ⟨.plain, words, none⟩ text = ⟨.plain, words, some word⟩) :
    Adds (' ' :: text) [word] := by
  intro state hmode
  have hblank : step state ' ' = ⟨.plain, state.settled, none⟩ := by simp [step, hmode]
  rw [run_cons, hblank, h]
  exact ⟨rfl, rfl⟩

/-- A quoted text after a blank adds itself. -/
theorem quote {text : Text} (h : '\'' ∉ text) : Adds (' ' :: Command.quote text) [text] :=
  of_run (run_quote h)

/-- A plain text after a blank adds itself, unless it is empty. -/
theorem plain {text : Text} (hne : text ≠ []) (h : ∀ c ∈ text, IsPlain c) :
    Adds (' ' :: text) [text] := by
  apply of_run
  intro words
  cases text with
  | nil => exact absurd rfl hne
  | cons c text =>
    rcases List.forall_mem_cons.mp h with ⟨⟨hspace, hquote, hbackslash⟩, hlater⟩
    have hstep : step ⟨.plain, words, none⟩ c = ⟨.plain, words, some [c]⟩ := by
      simp [step, hspace, hquote, hbackslash, State.push, State.begun]
    rw [run_cons, hstep, run_plain hlater]
    rfl

end Adds

/-! ## A word that has been begun -/

/-- A word with the given beginning has been begun after the given words, and it may have been
finished. -/
def Begins (words : List Text) (front : Text) (state : State) : Prop :=
  (state.words = words ∧ ∃ more, state.word = some (front ++ more)) ∨
    ∃ more later, state.words = words ++ (front ++ more) :: later

/-- A word that has been begun is only made longer. -/
theorem Begins.step {words : List Text} {front : Text} {state : State}
    (h : Begins words front state) (c : Char) : Begins words front (Shell.step state c) := by
  have hpush : Begins words front (state.push c) := by
    rcases h with ⟨hwords, more, hword⟩ | ⟨more, later, hwords⟩
    · exact Or.inl ⟨hwords, more ++ [c], by simp [State.push, State.begun, hword]⟩
    · exact Or.inr ⟨more, later, hwords⟩
  have henter : ∀ mode, Begins words front (state.enter mode) := by
    intro mode
    rcases h with ⟨hwords, more, hword⟩ | ⟨more, later, hwords⟩
    · exact Or.inl ⟨hwords, more, by simp [State.enter, State.begun, hword]⟩
    · exact Or.inr ⟨more, later, hwords⟩
  have hblank : Begins words front ⟨.plain, state.settled, none⟩ := by
    rcases h with ⟨hwords, more, hword⟩ | ⟨more, later, hwords⟩
    · exact Or.inr ⟨more, [], by simp [State.settled, hwords, hword]⟩
    · exact Or.inr ⟨more, later ++ state.word.toList, by simp [State.settled, hwords]⟩
  unfold Shell.step
  split
  · split_ifs
    · exact hblank
    · exact henter .quoted
    · exact henter .escaped
    · exact hpush
  · split_ifs
    · exact henter .plain
    · exact hpush
  · exact hpush

/-- What follows a word that has been begun leaves its beginning and the words before it. -/
theorem exists_settled_of_word (words : List Text) (front text : Text) (mode : Mode) :
    ∃ more later, (run ⟨mode, words, some front⟩ text).settled =
      words ++ (front ++ more) :: later := by
  have hbegins : ∀ state, Begins words front state → Begins words front (run state text) := by
    induction text with
    | nil => exact fun state h => h
    | cons c text ih => exact fun state h => ih (step state c) (h.step c)
  have hstart : Begins words front ⟨mode, words, some front⟩ := Or.inl ⟨rfl, [], by simp⟩
  rcases hbegins _ hstart with ⟨hwords, more, hword⟩ | ⟨more, later, hwords⟩
  · exact ⟨more, [], by simp [State.settled, hwords, hword]⟩
  · exact ⟨more, later ++ (run ⟨mode, words, some front⟩ text).word.toList,
      by simp [State.settled, hwords]⟩

end Shell

/-! ## Commands -/

/-- The words that the command of a request is meant to have. -/
def Request.words (request : Request) : List Text :=
  ["curl".toList, "-X".toList, request.method] ++
    request.headers.entries.flatMap
      (fun entry => ["-H".toList, entry.1 ++ ": ".toList ++ entry.2]) ++
    request.target ::
      if request.sendsBody then ["-d".toList, without (· == '\n') request.body] else []

namespace Command

open Shell

/-- A header without single quotes adds an option and its text. -/
theorem adds_headerOption {entry : Text × Text} (h : '\'' ∉ entry.1 ∧ '\'' ∉ entry.2) :
    Adds (' ' :: headerOption entry) ["-H".toList, entry.1 ++ ": ".toList ++ entry.2] := by
  have hinside : '\'' ∉ entry.1 ++ ": ".toList ++ entry.2 := by simp [h.1, h.2]
  have hmark : Adds (' ' :: "-H".toList) ["-H".toList] := .plain (by decide) (by decide)
  exact hmark.append (.quote hinside)

/-- An empty method is no word. -/
theorem adds_method {method : Text} (h : ∀ c ∈ method, IsPlain c) :
    Adds (' ' :: method) (if method = [] then [] else [method]) := by
  by_cases hempty : method = []
  · subst hempty
    intro state hmode
    simp [step, hmode, State.settled]
  · rw [if_neg hempty]
    exact .plain hempty h

/-- The command of a request up to the body. -/
def front (request : Request) : Text :=
  ' ' :: "-X".toList ++ (' ' :: request.method ++
    (request.headers.entries.flatMap (fun entry => ' ' :: headerOption entry) ++
      ' ' :: quote request.target))

/-- The words of a command up to the body. -/
def frontWords (request : Request) : List Text :=
  "-X".toList :: ((if request.method = [] then [] else [request.method]) ++
    (request.headers.entries.flatMap
      (fun entry => ["-H".toList, entry.1 ++ ": ".toList ++ entry.2]) ++ [request.target]))

/-- A command is its front and the option for its body. -/
theorem render_eq_front (request : Request) :
    render request = "curl".toList ++ (front request ++ bodyOption request) := by
  rw [render_eq, options, front]
  simp [List.append_assoc]

/-- Without single quotes in their parts, commands are read as they are meant up to the body,
but for an empty method. -/
theorem adds_front {request : Request} (h : request.QuoteFree)
    (hmethod : ∀ c ∈ request.method, IsPlain c) : Adds (front request) (frontWords request) := by
  have hmark : Adds (' ' :: "-X".toList) ["-X".toList] := .plain (by decide) (by decide)
  have hheaders := Adds.flatMap fun entry hentry => adds_headerOption (h.headers entry hentry)
  exact hmark.append ((adds_method hmethod).append
    (hheaders.append (.quote h.quote_not_mem_target)))

/-- The words of a request are those of its front and of its body, if it sends one. -/
theorem words_eq_frontWords {request : Request} (hne : request.method ≠ []) :
    request.words = "curl".toList :: (frontWords request ++
      if request.sendsBody then ["-d".toList, without (· == '\n') request.body] else []) := by
  simp [Request.words, frontWords, hne]

/-! ### The body -/

/-- A text without single quotes is not escaped. -/
theorem escape_eq_self {text : Text} (h : '\'' ∉ text) : escape text = text := by
  induction text with
  | nil => rfl
  | cons c text ih =>
    rw [List.mem_cons, not_or] at h
    rw [escape_cons_of_ne (Ne.symm h.1), ih h.2]

/-- A single quote stands in a body with or without its newlines. -/
theorem quote_mem_without_iff (body : Text) :
    '\'' ∈ without (· == '\n') body ↔ '\'' ∈ body := by
  simp [without]

/-- The body of a request that sends one is escaped and quoted. -/
theorem bodyOption_of_sends {request : Request} (h : request.sendsBody = true) :
    bodyOption request =
      ' ' :: "-d".toList ++ ' ' :: quote (escape (without (· == '\n') request.body)) := by
  rw [bodyOption, if_pos h, escapeBody_eq]
  rfl

/-- The mark of a body adds one word. -/
theorem adds_bodyMark : Adds (' ' :: "-d".toList) ["-d".toList] :=
  .plain (by decide) (by decide)

/-- A body without quotes is a word. -/
theorem adds_bodyOption {request : Request} (hsends : request.sendsBody = true)
    (h : '\'' ∉ request.body) :
    Adds (bodyOption request) ["-d".toList, without (· == '\n') request.body] := by
  have hfree : '\'' ∉ without (· == '\n') request.body := (quote_mem_without_iff _).not.mpr h
  rw [bodyOption_of_sends hsends, escape_eq_self hfree]
  exact adds_bodyMark.append (.quote hfree)

/-- Up to its first quote a body goes into its word, and the backslash that is put before the
quote goes into the word as well. -/
theorem exists_settled_of_quote_mem {text : Text} (h : '\'' ∈ text) {state : State}
    (hmode : state.mode = .plain) :
    ∃ before after more later, text = before ++ '\'' :: after ∧
      (run state (' ' :: quote (escape text))).settled =
        state.settled ++ (before ++ '\\' :: more) :: later := by
  rcases List.eq_append_cons_of_mem h with ⟨before, after, rfl, hbefore⟩
  have hescape : quote (escape (before ++ '\'' :: after)) =
      '\'' :: ((before ++ ['\\']) ++ '\'' :: (escape after ++ ['\''])) := by
    have hcut : escape (before ++ '\'' :: after) = before ++ '\\' :: '\'' :: escape after := by
      rw [escape, List.flatMap_append, ← escape, ← escape, escape_eq_self hbefore,
        escape_cons_quote]
    rw [quote, hcut]
    simp
  have hfree : '\'' ∉ before ++ ['\\'] := by simp [hbefore]
  have hblank : step state ' ' = ⟨.plain, state.settled, none⟩ := by simp [step, hmode]
  have hopen : step ⟨.plain, state.settled, none⟩ '\'' = ⟨.quoted, state.settled, some []⟩ := rfl
  rcases exists_settled_of_word state.settled (before ++ ['\\']) ('\'' :: (escape after ++ ['\'']))
    .quoted with ⟨more, later, hsettled⟩
  refine ⟨before, after, more, later, rfl, ?_⟩
  rw [hescape, run_cons, hblank, run_cons, hopen, run_append, run_quoted hfree, List.nil_append,
    hsettled, List.append_assoc]
  rfl

/-- The words of a body with a quote are not those that are meant. -/
theorem settled_ne_of_quote_mem {request : Request} (hsends : request.sendsBody = true)
    (h : '\'' ∈ request.body) {state : State} (hmode : state.mode = .plain) :
    (run state (bodyOption request)).settled ≠
      state.settled ++ ["-d".toList, without (· == '\n') request.body] := by
  rcases adds_bodyMark state hmode with ⟨hmode', hsettled'⟩
  rcases exists_settled_of_quote_mem ((quote_mem_without_iff _).mpr h) hmode' with
    ⟨before, after, more, later, htext, hsettled⟩
  intro heq
  rw [bodyOption_of_sends hsends, run_append, hsettled, hsettled', List.append_assoc,
    List.append_cancel_left_eq, htext] at heq
  -- the words agree up to the quote, where the shell has found the backslash
  have hword : before ++ '\\' :: more = before ++ '\'' :: after :=
    (List.cons.inj (List.cons.inj heq).2).1
  rw [List.append_cancel_left_eq] at hword
  exact absurd (List.cons.inj hword).1 (by decide)

/-! ### The whole command -/

/-- Up to its body a command is read as it is meant, but for an empty method. -/
theorem exists_words_render_eq {request : Request} (h : request.QuoteFree)
    (hmethod : ∀ c ∈ request.method, IsPlain c) :
    ∃ state : State, state.mode = .plain ∧ state.settled = "curl".toList :: frontWords request ∧
      Shell.words (render request) =
        if (run state (bodyOption request)).mode = .plain then
          some (run state (bodyOption request)).settled else none := by
  have hcurl : run {} "curl".toList = ⟨.plain, [], some "curl".toList⟩ := rfl
  rcases adds_front h hmethod ⟨.plain, [], some "curl".toList⟩ rfl with ⟨hmode, hsettled⟩
  refine ⟨run ⟨.plain, [], some "curl".toList⟩ (front request), hmode, hsettled, ?_⟩
  unfold Shell.words
  rw [render_eq_front, run_append, run_append, hcurl]

/-- A request that sends a body has a method. -/
theorem method_ne_nil_of_sends {request : Request} (h : request.sendsBody = true) :
    request.method ≠ [] := by
  intro hempty
  rw [Request.sendsBody, hempty] at h
  simp [bodyMethods] at h

/-- When a body is sent, the command is read as it is meant exactly if the body holds no
quote. -/
theorem words_render_of_sends {request : Request} (h : request.QuoteFree)
    (hmethod : ∀ c ∈ request.method, IsPlain c) (hsends : request.sendsBody = true) :
    Shell.words (render request) = some request.words ↔ '\'' ∉ request.body := by
  rcases exists_words_render_eq h hmethod with ⟨state, hmode, hsettled, hwords⟩
  have hmeant : request.words =
      state.settled ++ ["-d".toList, without (· == '\n') request.body] := by
    rw [words_eq_frontWords (method_ne_nil_of_sends hsends), if_pos hsends, hsettled,
      List.cons_append]
  constructor
  · intro heq hquote
    rw [hwords, hmeant] at heq
    split at heq
    · exact settled_ne_of_quote_mem hsends hquote hmode (Option.some.inj heq)
    · cases heq
  · intro hquote
    rcases adds_bodyOption hsends hquote state hmode with ⟨hlast, hall⟩
    rw [hwords, if_pos hlast, hall, ← hmeant]

/-- When no body is sent, the command is read as it is meant exactly if the method is a
word. -/
theorem words_render_of_not_sends {request : Request} (h : request.QuoteFree)
    (hmethod : ∀ c ∈ request.method, IsPlain c) (hsends : ¬ request.sendsBody = true) :
    Shell.words (render request) = some request.words ↔ request.method ≠ [] := by
  rcases exists_words_render_eq h hmethod with ⟨state, hmode, hsettled, hwords⟩
  have hbody : bodyOption request = [] := if_neg hsends
  rw [hwords, hbody, run_nil, if_pos hmode, hsettled]
  constructor
  · intro heq hempty
    -- the method is missing among the words
    have hlength := congrArg List.length (Option.some.inj heq)
    simp [Request.words, frontWords, hempty, hsends] at hlength
  · intro hne
    rw [words_eq_frontWords hne, if_neg hsends, List.append_nil]

/-- When a shell finds the words that a command is meant to have: the method is a word, and
the body, if it is sent, holds no single quote. -/
theorem words_render_iff {request : Request} (h : request.QuoteFree)
    (hmethod : ∀ c ∈ request.method, IsPlain c) :
    Shell.words (render request) = some request.words ↔
      request.method ≠ [] ∧ (request.sendsBody = true → '\'' ∉ request.body) := by
  by_cases hsends : request.sendsBody = true
  · rw [words_render_of_sends h hmethod hsends]
    constructor
    · intro hquote
      exact ⟨method_ne_nil_of_sends hsends, fun _ => hquote⟩
    · intro hfree
      exact hfree.2 hsends
  · rw [words_render_of_not_sends h hmethod hsends]
    constructor
    · intro hne
      exact ⟨hne, fun hyes => absurd hyes hsends⟩
    · intro hfree
      exact hfree.1

/-- A request with the given body. -/
def posting (body : Text) : Request where
  method := "POST".toList
  baseUrl := "http://h".toList
  body := body

/-- A backslash does no harm, but an apostrophe does. -/
theorem words_render_iff_apostrophe :
    Shell.words (render (posting "a\\b".toList)) = some (posting "a\\b".toList).words ∧
      Shell.words (render (posting "it's".toList)) ≠ some (posting "it's".toList).words := by
  have hfree : ∀ body, (posting body).QuoteFree := by
    intro body
    constructor <;> simp [posting]
  have hmethod : ∀ body, ∀ c ∈ (posting body).method, IsPlain c := by
    intro body
    have hpost : ∀ c ∈ "POST".toList, IsPlain c := by decide
    exact hpost
  constructor
  · exact (words_render_iff (hfree _) (hmethod _)).mpr ⟨by decide, fun _ => by decide⟩
  · intro hwords
    have hnone := ((words_render_iff (hfree _) (hmethod _)).mp hwords).2 (by decide)
    exact absurd hnone (by decide)

end Command
end RequestScript

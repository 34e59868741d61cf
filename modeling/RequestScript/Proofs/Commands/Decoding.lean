import RequestScript.Command
import RequestScript.Proofs.Text.Cuts
import RequestScript.Proofs.Text.Words

/-!
# Commands can be read back

A command has no lengths in it and its body may hold anything, quotes and text that looks
like another option included.  It can be read back all the same.  The method ends at the
first blank.  After it single quotes cut the command into pieces, which stand outside and
inside of quotes in turn; a piece outside says whether a header follows, the address, or the
body.  The body comes last, so the last quote of the command closes it, and in the body each
quote has a backslash of its own, whatever stands before the backslash.

Main results:

- Theorem {lit}`render_eq`: the layout of a command.
- Theorem {lit}`unescape_escapeBody`: the body is found again, without its newlines.
- Definition {lit}`read`: the reader.
- Theorem {lit}`read_render`: a command whose parts leave its marks alone is read back.
-/

namespace RequestScript

open Text

namespace Text

/-- Joined texts one after another: a separator stands before each but the first. -/
theorem join_cons (separator part : Text) (parts : List Text) :
    join separator (part :: parts) = part ++ parts.flatMap (separator ++ ·) := by
  induction parts generalizing part with
  | nil => simp
  | cons next parts ih =>
    have hnext : separator.intercalate (next :: parts) = join separator (next :: parts) := rfl
    rw [join, List.intercalate_cons_cons, hnext, ih, List.flatMap_cons]
    simp only [List.append_assoc]

/-- A single character is replaced wherever it stands. -/
theorem replaceAll_singleton (old : Char) (new text : Text) :
    replaceAll [old] new text = text.flatMap fun c => if c = old then new else [c] := by
  have hne : ¬ ([old] : Text) = [] := List.cons_ne_nil old []
  unfold replaceAll
  rw [if_neg hne]
  induction text with
  | nil => rfl
  | cons c text ih =>
    by_cases hc : c = old
    · simp [replaceFrom, hc, ih]
    · have hold : ¬ old = c := fun heq => hc heq.symm
      simp [replaceFrom, hc, hold, ih]

end Text

/-! ## The layout of a command -/

namespace Command

/-- The option that carries the body, if it is sent. -/
def bodyOption (request : Request) : Text :=
  if request.sendsBody then " -d ".toList ++ quote (escapeBody request.body) else []

/-- What follows the method: the headers, the address and the body. -/
def options (request : Request) : Text :=
  request.headers.entries.flatMap (fun entry => ' ' :: headerOption entry) ++
    (' ' :: quote request.target ++ bodyOption request)

/-- A blank follows the method. -/
theorem exists_options_eq (request : Request) : ∃ rest, options request = ' ' :: rest := by
  unfold options
  cases request.headers.entries with
  | nil => exact ⟨_, rfl⟩
  | cons entry entries => exact ⟨_, rfl⟩

/-- A command is the method and its options. -/
theorem render_eq (request : Request) :
    render request = "curl -X ".toList ++ (request.method ++ options request) := by
  have hbody : (if request.sendsBody then ["-d ".toList ++ quote (escapeBody request.body)]
      else []).flatMap (fun part => ' ' :: part) = bodyOption request := by
    unfold bodyOption
    split <;> simp
  unfold render parts options
  rw [List.cons_append, join_cons, List.flatMap_append, List.flatMap_cons, List.flatMap_map]
  simp only [List.singleton_append, List.append_assoc, hbody]

/-! ## Escapes -/

/-- A body without its escapes: a backslash before a quote is dropped. -/
def unescape : Text → Text
  | [] => []
  | c :: rest => if c = '\\' ∧ rest.head? = some '\'' then unescape rest else c :: unescape rest

/-- Only a backslash begins an escape. -/
theorem unescape_cons_of_ne {c : Char} (hc : c ≠ '\\') (rest : Text) :
    unescape (c :: rest) = c :: unescape rest := by
  rw [unescape, if_neg]
  exact fun h => hc h.1

/-- An escaped quote is read as a quote. -/
theorem unescape_backslash_quote (rest : Text) :
    unescape ('\\' :: '\'' :: rest) = '\'' :: unescape rest := by
  rw [unescape, if_pos ⟨rfl, rfl⟩, unescape_cons_of_ne (by decide)]

/-- A text with a backslash before each quote. -/
def escape (text : Text) : Text :=
  text.flatMap fun c => if c = '\'' then "\\'".toList else [c]

@[simp]
theorem escape_nil : escape [] = [] := rfl

/-- A quote is written with a backslash in front. -/
theorem escape_cons_quote (text : Text) : escape ('\'' :: text) = '\\' :: '\'' :: escape text := rfl

/-- Every other character is written as it is. -/
theorem escape_cons_of_ne {c : Char} (hc : c ≠ '\'') (text : Text) :
    escape (c :: text) = c :: escape text := by
  simp [escape, hc]

/-- A body is written without its newlines, and escaped. -/
theorem escapeBody_eq (body : Text) : escapeBody body = escape (without (· == '\n') body) :=
  replaceAll_singleton '\'' "\\'".toList (without (· == '\n') body)

/-- An escaped text does not begin with a quote, so a backslash of the text in front is never
taken for an escape. -/
theorem head?_escape_ne_quote (text : Text) : (escape text).head? ≠ some '\'' := by
  cases text with
  | nil => simp
  | cons c text =>
    by_cases hc : c = '\''
    · subst hc
      rw [escape_cons_quote]
      simp
    · rw [escape_cons_of_ne hc]
      simpa using hc

/-- Escapes can be undone. -/
theorem unescape_escape (text : Text) : unescape (escape text) = text := by
  induction text with
  | nil => rfl
  | cons c text ih =>
    by_cases hc : c = '\''
    · subst hc
      rw [escape_cons_quote, unescape_backslash_quote, ih]
    · have hkeeps : ¬ (c = '\\' ∧ (escape text).head? = some '\'') :=
        fun h => head?_escape_ne_quote text h.2
      rw [escape_cons_of_ne hc, unescape, if_neg hkeeps, ih]

/-- The body of a command is found again, without its newlines. -/
theorem unescape_escapeBody (body : Text) :
    unescape (escapeBody body) = without (· == '\n') body := by
  rw [escapeBody_eq, unescape_escape]

/-! ## The reader -/

/-- What a command says. -/
structure Content where
  method : Text
  headers : List (Text × Text)
  address : Text
  params : List (Text × Text)
  body : Option Text
deriving DecidableEq, Repr

/-- The name and the value of a header: a colon and a blank stand between them. -/
def readHeader (header : Text) : Text × Text :=
  let (name, value) := splitAtFirst ' ' header
  (name.dropLast, value.getD [])

/-- The headers at the front of the pieces of a command, and the pieces after them. -/
def readHeaders : List Text → List (Text × Text) × List Text
  | mark :: header :: pieces =>
    if mark = " -H ".toList then
      let (headers, rest) := readHeaders pieces
      (readHeader header :: headers, rest)
    else ([], mark :: header :: pieces)
  | pieces => ([], pieces)

/-- The name and the value of a parameter. -/
def readParam (param : Text) : Text × Text :=
  let (name, value) := splitAtFirst '=' param
  (name, value.getD [])

/-- The address without its parameters, and the parameters. -/
def readTarget (target : Text) : Text × List (Text × Text) :=
  match splitAtFirst '?' target with
  | (address, none) => (address, [])
  | (address, some query) => (address, (query.splitOn '&').map readParam)

/-- The body in the pieces after the address, if there is one. -/
def readBody : List Text → Option Text
  | mark :: pieces =>
    if mark = " -d ".toList then some (unescape (join ['\''] pieces.dropLast)) else none
  | [] => none

/-- What a command says, read off its text. -/
def read (command : Text) : Option Content :=
  match splitAtFirst ' ' (command.drop "curl -X ".toList.length) with
  | (_, none) => none
  | (method, some rest) =>
    match readHeaders ((' ' :: rest).splitOn '\'') with
    | (headers, _ :: target :: pieces) =>
      let (address, params) := readTarget target
      some ⟨method, headers, address, params, readBody pieces⟩
    | _ => none

/-! ## What is read back -/

end Command

namespace Request

/-- What the command of a request says. -/
def content (request : Request) : Command.Content where
  method := request.method
  headers := request.headers.entries
  address := request.baseUrl ++ request.path
  params := request.params.entries
  body := if request.sendsBody then some (without (· == '\n') request.body) else none

/-- No part of a request that is quoted as it is holds a single quote. -/
structure QuoteFree (request : Request) : Prop where
  headers : ∀ entry ∈ request.headers.entries, '\'' ∉ entry.1 ∧ '\'' ∉ entry.2
  baseUrl : '\'' ∉ request.baseUrl
  path : '\'' ∉ request.path
  params : ∀ entry ∈ request.params.entries, '\'' ∉ entry.1 ∧ '\'' ∉ entry.2

/-- The parts of a request leave the marks alone by which its command is read. -/
structure Separable (request : Request) : Prop extends QuoteFree request where
  method : IsWord request.method
  headerName : ∀ entry ∈ request.headers.entries, ∀ c ∈ entry.1, isBlank c = false
  address : '?' ∉ request.baseUrl ∧ '?' ∉ request.path
  paramName : ∀ entry ∈ request.params.entries, '=' ∉ entry.1 ∧ '&' ∉ entry.1
  paramValue : ∀ entry ∈ request.params.entries, '&' ∉ entry.2

/-- An address holds no quote when its parts hold none. -/
theorem QuoteFree.quote_not_mem_target {request : Request} (h : request.QuoteFree) :
    '\'' ∉ request.target := by
  have hquery : '\'' ∉ request.queryString := by
    intro hmem
    rcases (mem_join (by decide) _).mp hmem with ⟨part, hpart, hquote⟩
    rcases List.mem_map.mp hpart with ⟨entry, hentry, rfl⟩
    simp [(h.params entry hentry).1, (h.params entry hentry).2] at hquote
  unfold target
  intro hmem
  simp only [List.mem_append, h.baseUrl, h.path, false_or] at hmem
  split at hmem
  · simp at hmem
  · exact hquery (List.mem_of_ne_of_mem (by decide) hmem)

end Request

namespace Command

/-- A quoted text and what stands before it are two pieces. -/
theorem splitOn_quote {front text : Text} (hfront : '\'' ∉ front) (htext : '\'' ∉ text)
    (rest : Text) :
    (front ++ (quote text ++ rest)).splitOn '\'' = front :: text :: rest.splitOn '\'' := by
  have hcut : quote text ++ rest = '\'' :: (text ++ '\'' :: rest) := by simp [quote]
  rw [hcut, List.splitOn_append_cons_self_of_not_mem hfront,
    List.splitOn_append_cons_self_of_not_mem htext]

/-! ### Headers -/

/-- A name without blanks is found again in front of its value. -/
theorem readHeader_append {name : Text} (h : ∀ c ∈ name, isBlank c = false) (value : Text) :
    readHeader (name ++ ": ".toList ++ value) = (name, value) := by
  have hspace : ' ' ∉ name ++ [':'] := by
    intro hmem
    rcases List.mem_append.mp hmem with hname | hcolon
    · simpa using h ' ' hname
    · simp at hcolon
  have hheader : name ++ ": ".toList ++ value = (name ++ [':']) ++ ' ' :: value := by simp
  rw [readHeader, hheader, splitAtFirst_append hspace]
  simp

/-- Cut at its quotes, a row of header options alternates between the option and the header. -/
theorem splitOn_headers {headers : List (Text × Text)}
    (h : ∀ entry ∈ headers, '\'' ∉ entry.1 ∧ '\'' ∉ entry.2) (rest : Text) :
    (headers.flatMap (fun entry => ' ' :: headerOption entry) ++ rest).splitOn '\'' =
      headers.flatMap (fun entry => [" -H ".toList, entry.1 ++ ": ".toList ++ entry.2]) ++
        rest.splitOn '\'' := by
  induction headers with
  | nil => rfl
  | cons entry headers ih =>
    rcases List.forall_mem_cons.mp h with ⟨⟨hname, hvalue⟩, hlater⟩
    have hinside : '\'' ∉ entry.1 ++ ": ".toList ++ entry.2 := by simp [hname, hvalue]
    have houtside : '\'' ∉ " -H ".toList := by decide
    have hoption : ' ' :: headerOption entry =
        " -H ".toList ++ quote (entry.1 ++ ": ".toList ++ entry.2) := rfl
    rw [List.flatMap_cons, List.append_assoc, hoption, List.append_assoc,
      splitOn_quote houtside hinside, ih hlater]
    rfl

/-- The headers are read off the pieces up to the first that begins none. -/
theorem readHeaders_append {headers : List (Text × Text)}
    (h : ∀ entry ∈ headers, ∀ c ∈ entry.1, isBlank c = false) {mark : Text}
    (hmark : mark ≠ " -H ".toList) (target : Text) (pieces : List Text) :
    readHeaders
        (headers.flatMap (fun entry => [" -H ".toList, entry.1 ++ ": ".toList ++ entry.2]) ++
          mark :: target :: pieces) =
      (headers, mark :: target :: pieces) := by
  induction headers with
  | nil =>
    rw [List.flatMap_nil, List.nil_append, readHeaders, if_neg hmark]
  | cons entry headers ih =>
    rcases List.forall_mem_cons.mp h with ⟨hname, hlater⟩
    rw [List.flatMap_cons, List.append_assoc, List.cons_append, List.cons_append,
      List.nil_append, readHeaders, if_pos rfl, ih hlater, readHeader_append hname]

/-! ### The address -/

/-- A parameter is cut at its first equals sign. -/
theorem readParam_append {name : Text} (h : '=' ∉ name) (value : Text) :
    readParam (name ++ '=' :: value) = (name, value) := by
  rw [readParam, splitAtFirst_append h]
  rfl

/-- Parameters are found again between the signs that join them. -/
theorem splitOn_queryString {request : Request} (h : request.Separable)
    (hne : request.params.entries ≠ []) :
    (request.queryString.splitOn '&').map readParam = request.params.entries := by
  have hfree : ∀ part ∈ request.params.entries.map (fun entry => entry.1 ++ '=' :: entry.2),
      '&' ∉ part := by
    intro part hpart
    rcases List.mem_map.mp hpart with ⟨entry, hentry, rfl⟩
    simp [(h.paramName entry hentry).2, h.paramValue entry hentry]
  have hparts : request.params.entries.map (fun entry => entry.1 ++ '=' :: entry.2) ≠ [] := by
    simpa using hne
  have hread : ∀ entry ∈ request.params.entries,
      readParam (entry.1 ++ '=' :: entry.2) = entry := fun entry hentry =>
    readParam_append (h.paramName entry hentry).1 entry.2
  rw [Request.queryString, join, List.splitOn_intercalate '&' hfree hparts, List.map_map]
  exact (List.map_congr_left hread).trans (List.map_id' _)

/-- The address ends at the first question mark, and the parameters follow it. -/
theorem readTarget_target {request : Request} (h : request.Separable) :
    readTarget request.target = (request.baseUrl ++ request.path, request.params.entries) := by
  have hmark : '?' ∉ request.baseUrl ++ request.path := by simp [h.address]
  by_cases hempty : request.params.entries = []
  · have hisEmpty : request.params.isEmpty = true := by simp [OrderedMap.isEmpty, hempty]
    have hnone : splitAtFirst '?' (request.baseUrl ++ request.path) =
        (request.baseUrl ++ request.path, none) := by
      have hleft := splitAtFirst_append_left hmark []
      simpa using hleft
    rw [Request.target, if_pos hisEmpty, List.append_nil, readTarget, hnone, hempty]
  · have hisEmpty : ¬ request.params.isEmpty = true := by simpa [OrderedMap.isEmpty] using hempty
    rw [Request.target, if_neg hisEmpty, readTarget, splitAtFirst_append hmark]
    dsimp only
    rw [splitOn_queryString h hempty]

/-! ### The body -/

/-- The pieces after the address tell the body, whatever it holds. -/
theorem readBody_bodyOption (request : Request) :
    readBody ((bodyOption request).splitOn '\'') = request.content.body := by
  unfold bodyOption Request.content
  by_cases hsends : request.sendsBody = true
  · have houtside : '\'' ∉ " -d ".toList := by decide
    have hcut : " -d ".toList ++ quote (escapeBody request.body) =
        " -d ".toList ++ '\'' :: (escapeBody request.body ++ '\'' :: []) := rfl
    have hbody : join ['\''] ((escapeBody request.body).splitOn '\'') = escapeBody request.body :=
      List.intercalate_splitOn '\''
    simp only [hsends, if_true]
    rw [hcut, List.splitOn_append_cons_self_of_not_mem houtside, List.splitOn_append_cons_self,
      readBody, if_pos rfl, List.splitOn_nil, List.dropLast_concat, hbody, unescape_escapeBody]
  · simp only [hsends]
    rfl

/-! ### The whole command -/

/-- Cut at its quotes, a command shows its headers, then the target, then the body. -/
theorem splitOn_options {request : Request} (h : request.QuoteFree) :
    (options request).splitOn '\'' =
      request.headers.entries.flatMap
          (fun entry => [" -H ".toList, entry.1 ++ ": ".toList ++ entry.2]) ++
        [' '] :: request.target :: (bodyOption request).splitOn '\'' := by
  have hspace : '\'' ∉ [' '] := by decide
  have htarget : ' ' :: quote request.target ++ bodyOption request =
      [' '] ++ (quote request.target ++ bodyOption request) := rfl
  rw [options, splitOn_headers h.headers, htarget, splitOn_quote hspace h.quote_not_mem_target]

/-- A command whose parts leave its marks alone is read back. -/
theorem read_render_eq {request : Request} (h : request.Separable) :
    read (render request) = some request.content := by
  rcases exists_options_eq request with ⟨rest, hrest⟩
  have hmethod : ' ' ∉ request.method := h.method.not_mem_of_isBlank isBlank_space
  have hdrop : (render request).drop "curl -X ".toList.length = request.method ++ ' ' :: rest := by
    rw [render_eq, hrest, List.drop_left]
  have hmark : [' '] ≠ " -H ".toList := by decide
  rw [read, hdrop, splitAtFirst_append hmethod]
  dsimp only
  rw [← hrest, splitOn_options h.toQuoteFree, readHeaders_append h.headerName hmark]
  dsimp only
  rw [readTarget_target h, readBody_bodyOption]
  rfl

/-- A command is read back: there is one reader that finds in the command of every request
whose parts leave the marks of a command alone the method, the headers, the address, the
parameters and the body without its newlines.  Requests with the same command agree on all
of these. -/
theorem read_render {request : Request} (h : request.Separable) :
    read (render request) = some request.content ∧
      ∀ other : Request, other.Separable → render other = render request →
        other.content = request.content := by
  have hread := read_render_eq h
  refine ⟨hread, fun other hother hsame => ?_⟩
  have hagain := read_render_eq hother
  rw [hsame, hread] at hagain
  exact (Option.some.inj hagain).symm

/-- A request whose body looks like other options and ends in a backslash. -/
def misleading : Request where
  method := "POST".toList
  baseUrl := "http://h".toList
  path := "/a b".toList
  headers := ⟨[("A:".toList, " -H x: y".toList), ("B".toList, [])]⟩
  params := ⟨[("q".toList, "1=2?".toList), ([], [])]⟩
  body := "\\' -H 'x: y' -d\n '\\".toList

theorem read_render_misleading :
    misleading.Separable ∧
      read (render misleading) = some {
        method := "POST".toList
        headers := [("A:".toList, " -H x: y".toList), ("B".toList, [])]
        address := "http://h/a b".toList
        params := [("q".toList, "1=2?".toList), ([], [])]
        body := some "\\' -H 'x: y' -d '\\".toList } := by
  have hquoteFree : misleading.QuoteFree := by
    constructor <;> decide
  have hseparable : misleading.Separable :=
    ⟨hquoteFree, by decide, by decide, by decide, by decide, by decide⟩
  have hcontent : misleading.content = {
      method := "POST".toList
      headers := [("A:".toList, " -H x: y".toList), ("B".toList, [])]
      address := "http://h/a b".toList
      params := [("q".toList, "1=2?".toList), ([], [])]
      body := some "\\' -H 'x: y' -d '\\".toList } := by decide
  exact ⟨hseparable, hcontent ▸ (read_render hseparable).1⟩

end Command
end RequestScript

import Playground.Proofs.Script.Phrase
import Playground.Report

/-! What a report says. Its script is always the same one, with the texts and numbers of the error
in the places for them: whatever a learner wrote, it neither ends the literal that it stands in nor
opens anything else. -/

namespace Playground.Report

open Script Script.Reader Text Json

/-! ### The statements of a report -/

def mark (m : Mark) : Meaning := .code (.mark m) false

def clearMeaning : List Meaning := callMeaning true "Terminal" "clear" [mark .rightParen]

/-- The terminal shows the name of the file. -/
def nameMeaning (name : String) : List Meaning :=
  callMeaning true "Terminal" "escribir" (
    [mark .backquote, .template (some "Error en el archivo "), mark .dollarBrace,
      .code (.word (.name "tiza")) false,
      mark .dot]
    ++ callMeaning false "fondoAzul50" "azul800" [.string name, mark .rightParen]
    ++ [mark .rightBrace, .template (some ":"), mark .backquote, mark .rightParen])

/-- The terminal shows markup as it stands. -/
def frameMeaning (markup : List Char) : List Meaning :=
  callMeaning true "Terminal" "escribir" [
    mark .backquote, .template (some (String.ofList ("<pre>".toList ++ markup ++ "</pre>".toList))),
    mark .backquote,
    mark .rightParen]

def consoleMeaning (message : String) : List Meaning :=
  callMeaning true "console" "error" [.string message, mark .rightParen]

def errorMembers (error : FileError) : List (String × Leaf) := [
  ("column", .number error.column), ("line", .number error.line), ("message", .text error.message),
  ("stack", .text error.stack)]

def windowMeaning (error : FileError) : List Meaning :=
  callMeaning true "window" "onerror" (
    [.string error.message, mark .comma, .code (.word .null) false, mark .comma,
      .number (error.line, 1), mark .comma,
      .number (error.column, 1), mark .comma, mark .leftBrace]
    ++ memberMeanings (errorMembers error) ++ [mark .rightBrace, mark .rightParen])

/-- What every report says, but for the name of the file, the markup and the error. -/
def skeleton (name : String) (markup : List Char) (error : FileError) : List Meaning :=
  [clearMeaning, nameMeaning name, frameMeaning markup, consoleMeaning error.message,
    windowMeaning error].flatten

/-! ### The text of a report -/

def clearText (rest : List Char) : List Char := '\n' :: callText "Terminal" "clear" (')' :: rest)

def nameText (name : String) (rest : List Char) : List Char :=
  '\n' :: '\n' :: callText "Terminal" "escribir"
    ('`' :: (escapeTemplate "Error en el archivo ".toList ++ '$' :: '{' ::
      ("tiza".toList ++ '.' :: callText "fondoAzul50" "azul800"
        (quote name ++ ')' :: '}' :: (escapeTemplate ":".toList ++ '`' :: ')' :: rest)))))

def frameText (shown rest : List Char) : List Char :=
  '\n' :: '\n' :: callText "Terminal" "escribir"
    ('`' :: (escapeTemplate shown ++ '`' :: ')' :: rest))

def consoleText (message : String) (rest : List Char) : List Char :=
  '\n' :: '\n' :: callText "console" "error" (quote message ++ ')' :: rest)

def windowText (error : FileError) (rest : List Char) : List Char :=
  '\n' :: '\n' :: callText "window" "onerror"
    (quote error.message ++ ',' :: ' ' :: ("null".toList ++ ',' :: ' ' ::
      (Nat.toDigits 10 error.line ++ ',' :: ' ' :: (Nat.toDigits 10 error.column ++ ',' :: ' ' ::
        ((Json.object ((errorMembers error).map fun m => (m.1, m.2.json))).chars ++
          ')' :: rest)))))

/-- The frame that a report shows. -/
def shownFrame (f : File) (error : FileError) : List Char :=
  let frame : CodeFrame := { message := some error.message }
  frame.render f.content.toList error.line (some error.column)

/-- The markup that a report shows. -/
def shownMarkup (f : File) (error : FileError) : List Char :=
  "<pre>".toList ++ escapeMarkup (shownFrame f error) ++ "</pre>".toList

/-- The frame and what surrounds it are escaped for their template as one text. -/
theorem escapeTemplate_shownMarkup (f : File) (error : FileError) :
    escapeTemplate (shownMarkup f error) =
      "<pre>".toList ++ frame f.content error ++ "</pre>".toList := by
  rw [shownMarkup, escapeTemplate_append _ (by decide), escapeTemplate_append_of_plain (by simp)]
  rfl

theorem toList_positions (line column : Nat) :
    s!", null, {line}, {column}, ".toList =
      ',' :: ' ' :: ("null".toList ++ ',' :: ' ' ::
        (Nat.toDigits 10 line ++ ',' :: ' ' :: (Nat.toDigits 10 column ++ [',', ' ']))) := by
  have hfixed (s : String) : toString s = s := rfl
  simp [hfixed]

/-- The statements of a report, one after the other. -/
theorem body_eq (f : File) (error : FileError) :
    body f error = clearText (nameText f.name (frameText (shownMarkup f error)
      (consoleText error.message (windowText error [])))) := by
  -- The fixed texts are cut wherever a token begins.
  have hname : String.toList
    "\nTerminal.clear()\n\nTerminal.escribir(`Error en el archivo $\x7btiza.fondoAzul50.azul800(" =
      '\n' :: ("Terminal".toList ++ '.' :: ("clear".toList ++ '(' :: ')' :: '\n' :: '\n' ::
        ("Terminal".toList ++ '.' :: ("escribir".toList ++ '(' :: '`' ::
          ("Error en el archivo ".toList ++ '$' :: '{' :: ("tiza".toList ++ '.' ::
            ("fondoAzul50".toList ++ '.' :: ("azul800".toList ++ ['('])))))))) := by
    decide
  have hframe : ")\x7d:`)\n\nTerminal.escribir(`<pre>".toList =
      ')' :: '}' :: (":".toList ++ '`' :: ')' :: '\n' :: '\n' ::
        ("Terminal".toList ++ '.' :: ("escribir".toList ++ '(' :: '`' :: "<pre>".toList))) := by
    decide
  have hconsole : "</pre>`)\n\nconsole.error(".toList = "</pre>".toList ++
      '`' :: ')' :: '\n' :: '\n' :: ("console".toList ++ '.' :: ("error".toList ++ ['('])) := by
    decide
  have hwindow : ")\n\nwindow.onerror(".toList = ')' :: '\n' :: '\n' ::
      ("window".toList ++ '.' :: ("onerror".toList ++ ['('])) := by
    decide
  have hlabel : escapeTemplate "Error en el archivo ".toList = "Error en el archivo ".toList := by
    decide
  have hcolon : escapeTemplate ":".toList = ":".toList := by
    decide
  have hobject : errorObject error = .object ((errorMembers error).map fun m => (m.1, m.2.json)) :=
    rfl
  unfold body
  rw [hname, hframe, hconsole, hwindow, toList_positions, hobject, clearText, nameText,
    frameText, consoleText, windowText, escapeTemplate_shownMarkup, hlabel, hcolon]
  simp only [callText, List.append_assoc, List.cons_append, List.nil_append]

/-! ### What the text says -/

section

variable {isReserved : Word → Bool} {operandNext : Bool} {last : Option Token} {rest : List Char}
  {meanings : List Meaning}

theorem forall_mem_feeds : ∀ c ∈ ['\n', '\n'], isSpace c = true := List.all_eq_true.mp (by decide)

theorem endsText_backquote (cs : List Char) : EndsText ('`' :: cs) := ⟨cs, .inl rfl⟩

theorem endsText_hole (cs : List Char) : EndsText ('$' :: '{' :: cs) := ⟨cs, .inr rfl⟩

theorem says_clear (h : Says isReserved ⟨[.braceStatement], false, some (.mark .rightParen)⟩
    rest meanings) :
    Says isReserved ⟨[.braceStatement], operandNext, last⟩ (clearText rest)
      (clearMeaning ++ meanings) :=
  Says.call (by simp) ['\n'] "Terminal" "clear" (Says.closeCall h) (List.all_eq_true.mp (by decide))
    (by decide +kernel) (by decide +kernel)

theorem says_name (name : String)
    (h : Says isReserved ⟨[.braceStatement], false, some (.mark .rightParen)⟩ rest meanings) :
    Says isReserved ⟨[.braceStatement], operandNext, last⟩ (nameText name rest)
      (nameMeaning name ++ meanings) := by
  refine Says.call (by simp)
    ['\n', '\n'] "Terminal" "escribir" ?_ forall_mem_feeds (by decide +kernel) (by decide +kernel)
  refine Says.openTemplate (Says.text ?_ (by simp) (endsText_hole _) (by decide)) (by simp)
  refine Says.openHole (Says.name (by simp) [] "tiza" ?_ (List.forall_mem_nil _) (by decide +kernel)
    (endsWord_cons (by decide +kernel) _))
  refine Says.dot (by simp) "fondoAzul50" ?_ (by decide +kernel)
  refine Says.call (by simp) [] "fondoAzul50" "azul800" ?_ (List.forall_mem_nil _)
    (by decide +kernel)
    (by decide +kernel)
  refine Says.string (by simp) (Says.closeCall (Says.closeHole ?_))
  exact Says.text (Says.closeTemplate (Says.closeCall h)) (by simp)
    (endsText_backquote _) (by decide)

theorem says_frame {shown markup : List Char}
    (hshown : lineFeeds shown = "<pre>".toList ++ markup ++ "</pre>".toList)
    (h : Says isReserved ⟨[.braceStatement], false, some (.mark .rightParen)⟩ rest meanings) :
    Says isReserved ⟨[.braceStatement], operandNext, last⟩ (frameText shown rest)
      (frameMeaning markup ++ meanings) := by
  refine Says.call (by simp)
    ['\n', '\n'] "Terminal" "escribir" ?_ forall_mem_feeds (by decide +kernel) (by decide +kernel)
  refine Says.openTemplate ?_ (by simp)
  exact Says.text (Says.closeTemplate (Says.closeCall h)) (by simp) (endsText_backquote _)
    (by rw [hshown])

theorem says_console (message : String)
    (h : Says isReserved ⟨[.braceStatement], false, some (.mark .rightParen)⟩ rest meanings) :
    Says isReserved ⟨[.braceStatement], operandNext, last⟩ (consoleText message rest)
      (consoleMeaning message ++ meanings) :=
  Says.call (by simp) ['\n', '\n'] "console" "error" (Says.string (by simp) (Says.closeCall h))
    forall_mem_feeds
    (by decide +kernel) (by decide +kernel)

theorem says_window (error : FileError)
    (h : Says isReserved ⟨[.braceStatement], false, some (.mark .rightParen)⟩ rest meanings) :
    Says isReserved ⟨[.braceStatement], operandNext, last⟩ (windowText error rest)
      (windowMeaning error ++ meanings) := by
  have hparen : [Enclosure.parenExpression, .braceStatement].head? ≠ some .template := by
    simp
  refine Says.call (by simp) ['\n', '\n'] "window" "onerror" ?_ forall_mem_feeds (by decide +kernel)
    (by decide +kernel)
  refine Says.string hparen (Says.mark hparen [] ?_ (List.forall_mem_nil _) (by decide) rfl)
  refine Says.null hparen [' '] ?_ forall_mem_space (endsWord_cons (by decide +kernel) _)
  refine Says.mark hparen [] ?_ (List.forall_mem_nil _) (by decide) rfl
  refine Says.number hparen [' '] error.line ?_ forall_mem_space (endsDigits_cons (.inl rfl) _)
  refine Says.mark hparen [] ?_ (List.forall_mem_nil _) (by decide) rfl
  refine Says.number hparen [' '] error.column ?_ forall_mem_space (endsDigits_cons (.inl rfl) _)
  refine Says.mark hparen [] ?_ (List.forall_mem_nil _) (by decide) rfl
  exact Says.object _ _ (Says.closeCall h)

end

theorem lineFeeds_shownMarkup (f : File) (error : FileError) :
    lineFeeds (shownMarkup f error) =
      "<pre>".toList ++ escapeMarkup (lineFeeds (shownFrame f error)) ++ "</pre>".toList := by
  rw [shownMarkup, lineFeeds_append _ (by decide), lineFeeds_append_of_not_mem (by decide),
    lineFeeds_escapeMarkup]
  rfl

theorem lexes_body (isReserved : Word → Bool) (f : File) (error : FileError) :
    ∃ tokens, Lexes isReserved (Reader.ofText (body f error)) tokens ∧
      tokens.map Lexeme.meaning =
        skeleton f.name (escapeMarkup (lineFeeds (shownFrame f error))) error := by
  have hsays : Says isReserved ⟨[.braceStatement], true, none⟩ (clearText (nameText f.name
      (frameText (shownMarkup f error) (consoleText error.message (windowText error []))))) _ :=
    says_clear (says_name f.name (says_frame (lineFeeds_shownMarkup f error)
      (says_console error.message (says_window error (says_nil (by simp))))))
  rw [body_eq]
  exact hsays.lexes_ofText

/-- The file `shown` reports the error of `f`: it is the same record, the error included, but for
its script. That is the fixed one with literals for what the learner wrote, behind the imports that
it needs, and its markup shows the frame around the error. -/
structure Reports (f : File) (error : FileError) (shown : File) : Prop where
  failed : f.error = some error
  errorKept : shown.error = some error
  record : shown = { f with prepared := shown.prepared }
  script : ∃ script markup,
    shown.prepared = some ⟨
      "import \x7b Terminal \x7d from '@es-js/terminal'; import \x7b tiza \x7d from '@es-js/tiza';",
      String.ofList script⟩ ∧
    (∀ isReserved, ∃ tokens, Lexes isReserved (Reader.ofText script) tokens ∧
      tokens.map Lexeme.meaning = skeleton f.name markup error) ∧
    '<' ∉ markup ∧ '>' ∉ markup ∧ shownMarkup? markup = some (lineFeeds (shownFrame f error))

theorem ofFile_of_error {f : File} {error : FileError} (h : f.error = some error) :
    ofFile f = { f with prepared := some ⟨imports, String.ofList (body f error)⟩ } := by
  rw [ofFile, h]

theorem reports_ofFile {f : File} {error : FileError} (h : f.error = some error) :
    Reports f error (ofFile f) := by
  obtain ⟨hless, hgreater⟩ := bracket_not_mem_escapeMarkup (lineFeeds (shownFrame f error))
  rw [ofFile_of_error h]
  exact ⟨h, h, rfl, body f error, _, rfl, fun isReserved => lexes_body isReserved f error, hless,
    hgreater, shownMarkup?_escapeMarkup _⟩

/-- The script of a report is the fixed one, with literals for what the learner wrote: the name of
the file, the message and the stack as they are, the line and the column, and markup without tags
that shows the frame around the error. -/
theorem ofFile_says_skeleton {f : File} {error : FileError} (h : f.error = some error)
    (isReserved : Word → Bool) :
    ∃ script tokens markup,
      Report.ofFile f = { f with prepared := some ⟨Report.imports, String.ofList script⟩ } ∧
        Lexes isReserved (Reader.ofText script) tokens ∧
        tokens.map Lexeme.meaning = skeleton f.name markup error ∧
        '<' ∉ markup ∧ '>' ∉ markup ∧
        shownMarkup? markup = some (lineFeeds (shownFrame f error)) := by
  obtain ⟨tokens, hlexes, hmeanings⟩ := lexes_body isReserved f error
  obtain ⟨hless, hgreater⟩ := bracket_not_mem_escapeMarkup (lineFeeds (shownFrame f error))
  exact ⟨body f error, tokens, _, ofFile_of_error h, hlexes, hmeanings, hless, hgreater,
    shownMarkup?_escapeMarkup _⟩

/-- An error at the second line, whose texts try to end every literal of the report. -/
def hostileError : FileError :=
  { message := "\"`$\x7balert(1)\x7d</pre>\\", line := 2, column := 3,
    stack := "\\\", alert(2), \"\r\n`" }

/-- A file that fails with it. -/
def hostileFile : File :=
  { name := "a\")\x7d`, `$\x7bb", content := "</pre>\r\n`), alert(3), `$\x7b&lt;\\",
    error := some hostileError }

theorem ofFile_says_skeleton_hostileFile :
    hostileFile.error = some hostileError ∧
      ∃ script tokens markup,
        Report.ofFile hostileFile =
            { hostileFile with prepared := some ⟨Report.imports, String.ofList script⟩ } ∧
          Lexes (fun w => w == .null) (Reader.ofText script) tokens ∧
          tokens.map Lexeme.meaning = skeleton "a\")\x7d`, `$\x7bb" markup hostileError ∧
          '<' ∉ markup ∧ '>' ∉ markup ∧
          shownMarkup? markup = some (lineFeeds (shownFrame hostileFile hostileError)) :=
  ⟨rfl, ofFile_says_skeleton rfl _⟩

end Playground.Report

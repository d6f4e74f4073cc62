import Terralens.Proofs.Extraction
import Terralens.Proofs.Words
import Terralens.Session

/-!
# What a session asks the model

Which lines of a session reach the model is said of the lines as they are typed, with white
space around and between their words and in letters of either case (`IsQuestion`, `AsksFix`).
Together with the directory and the file it finds, a line determines the one request it sends
(`Sends`). One line is handled in one of two ways: its request is sent and takes up one answer,
or nothing is sent and the server stays as it is (`handle_of_sends`, `handle_of_silent`). What a
whole session sends, and which answers it is given, follows line by line.
-/

namespace Terralens

open Text (Parts IsTrimmed isTrimmed_trim InAnyCase firstWord afterWord trim)

namespace ModelServer

/-- The answer to a request, by the number of requests before it. -/
def answerTo (server : ModelServer) (k : Nat) : Except Error String :=
  server.answers.getD k server.further

theorem generate_fst (server : ModelServer) : server.generate.1 = server.answerTo 0 := by
  cases hanswers : server.answers with
  | nil => simp [generate, answerTo, hanswers]
  | cons answer rest => simp [generate, answerTo, hanswers]

theorem answerTo_generate (server : ModelServer) (k : Nat) :
    server.generate.2.answerTo k = server.answerTo (k + 1) := by
  cases hanswers : server.answers with
  | nil => simp [generate, answerTo, hanswers]
  | cons answer rest => simp [generate, answerTo, hanswers]

end ModelServer

namespace Session

variable {s : Session} {line : String} {r : Request}

/-! ### Lines -/

/-- The commands that are typed without anything behind them. -/
def loneCommands : List String := ["quit", "exit", "q", "help", "status", "analyze"]

/-- A line with a question for the model: anything that is no command. -/
structure IsQuestion (line : String) : Prop where
  notBlank : trim line.toList ≠ []
  notLone : ∀ word ∈ loneCommands, ¬ InAnyCase word.toList (trim line.toList)
  notFix : ¬ InAnyCase "fix".toList (firstWord (trim line.toList))

instance (line : String) : Decidable (IsQuestion line) :=
  decidable_of_iff (trim line.toList ≠ [] ∧
      (∀ word ∈ loneCommands, ¬ InAnyCase word.toList (trim line.toList)) ∧
      ¬ InAnyCase "fix".toList (firstWord (trim line.toList)))
    ⟨fun ⟨hne, hlone, hfix⟩ => ⟨hne, hlone, hfix⟩, fun ⟨hne, hlone, hfix⟩ => ⟨hne, hlone, hfix⟩⟩

/-- A line with the word `fix`, a file and an issue. -/
def AsksFix (line : String) (file issue : List Char) : Prop :=
  ∃ word rest, Parts (trim line.toList) word rest ∧ InAnyCase "fix".toList word ∧
    Parts rest file issue

/-- The request a line sends. A question goes with what is known of the directory, and a fix with
  the file it is for. A line sends nothing when its directory or its file cannot be read. -/
inductive Sends (s : Session) (line : String) : Request → Prop
  | question {files : List SourceFile} {a : Analysis} (hline : IsQuestion line)
      (hload : loadDirectory s.files s.options.scan s.directory = .ok files)
      (hanalyze : analyzeFiles s.directory files = .ok a) :
      Sends s line (promptRequest s.options
        (Prompt.user s.options.agent (Text.trimmed line) (some ⟨files, a, ""⟩)))
  | fix {file issue : List Char} {source : SourceFile} (hline : AsksFix line file issue)
      (hread : s.files.readSource (s.directory.join (String.ofList file)) = .ok source) :
      Sends s line (promptRequest s.options
        (Prompt.fix s.options.agent source (String.ofList issue)))

/-! ### The commands of a line -/

theorem isPlainLetter_of_mem_word {word : String} (h : word ∈ "fix" :: loneCommands) :
    ∀ c ∈ word.toList, Text.isPlainLetter c := by
  have hall : ("fix" :: loneCommands).all (·.toList.all Text.isPlainLetter) = true := by decide
  exact List.all_eq_true.mp (List.all_eq_true.mp hall word h)

/-- A word in the lower-case form of a text is the text in letters of either case. -/
theorem lowered_eq_word_iff {word : String} {text : List Char}
    (h : word ∈ "fix" :: loneCommands) :
    String.ofList (Text.lowered text) = word ↔ InAnyCase word.toList text := by
  rw [← Text.lowered_eq_iff_inAnyCase (isPlainLetter_of_mem_word h), ← String.toList_inj,
    String.toList_ofList]

/-- The command of a line by its first word in small letters and by what is behind it. -/
theorem commandOf_eq (text : List Char) :
    commandOf text =
      let word := String.ofList (Text.lowered (firstWord text))
      let rest := trim (afterWord text)
      if word = "" then .nothing
      else if word = "fix" then .fix rest
      else if rest ≠ [] then .question
      else if word ∈ ["quit", "exit", "q"] then .quit
      else if word = "help" then .help
      else if word = "status" then .status
      else if word = "analyze" then .analyze
      else .question := by
  rcases Text.splitAtBlank_cases text with ⟨hnone, hword, hafter⟩ | ⟨rest, hsome, htrim⟩
  · have hrest : trim (afterWord text) = [] := by rw [hafter]; rfl
    simp [commandOf, hnone, hword, hrest]
  · simp [commandOf, hsome, htrim]

theorem fixArguments?_eq_some_iff {text : List Char} {file issue : String} :
    fixArguments? text = some (file, issue) ↔
      trim (afterWord text) ≠ [] ∧ String.ofList (firstWord text) = file ∧
        String.ofList (trim (afterWord text)) = issue := by
  rcases Text.splitAtBlank_cases text with ⟨hnone, -, hafter⟩ | ⟨rest, hsome, htrim⟩
  · have hrest : trim (afterWord text) = [] := by rw [hafter]; rfl
    simp [fixArguments?, hnone, hrest]
  · rw [← htrim]
    simp [fixArguments?, hsome]

theorem commandOf_eq_fix_iff {text arguments : List Char} :
    commandOf text = .fix arguments ↔
      InAnyCase "fix".toList (firstWord text) ∧ trim (afterWord text) = arguments := by
  rw [← lowered_eq_word_iff (by simp), commandOf_eq]
  by_cases hfix : String.ofList (Text.lowered (firstWord text)) = "fix"
  · simp [hfix]
  · simp only [hfix, if_false, false_and, iff_false]
    split_ifs <;> simp

/-- A command stands alone where nothing but it is in the line. -/
theorem inAnyCase_lone_iff {text : List Char} {word : String} (h : IsTrimmed text)
    (hword : word ∈ loneCommands) :
    InAnyCase word.toList text ↔
      trim (afterWord text) = [] ∧ String.ofList (Text.lowered (firstWord text)) = word := by
  have hmem : word ∈ "fix" :: loneCommands := List.mem_cons_of_mem _ hword
  rw [h.trim_afterWord_eq_nil_iff, lowered_eq_word_iff hmem]
  constructor
  · intro hcase
    have hsolid := hcase.solid (isPlainLetter_of_mem_word hmem)
    have hfirst : firstWord text = text := by
      rw [firstWord, List.takeWhile_eq_self_iff]
      intro c hc
      simp [hsolid c hc]
    rw [hfirst]
    exact ⟨rfl, hcase⟩
  · rintro ⟨hfirst, hcase⟩
    rwa [hfirst] at hcase

theorem commandOf_eq_question_iff {text : List Char} (h : IsTrimmed text) :
    commandOf text = .question ↔ text ≠ [] ∧
      (∀ word ∈ loneCommands, ¬ InAnyCase word.toList text) ∧
      ¬ InAnyCase "fix".toList (firstWord text) := by
  have hempty : String.ofList (Text.lowered (firstWord text)) = "" ↔ text = [] := by
    rw [← Text.firstWord_eq_nil_iff h.first, ← Text.lowered_eq_nil_iff, ← String.toList_inj,
      String.toList_ofList]
    exact Iff.rfl
  have hlone : (∀ word ∈ loneCommands, ¬ InAnyCase word.toList text) ↔
      ¬ (trim (afterWord text) = [] ∧
        String.ofList (Text.lowered (firstWord text)) ∈ loneCommands) := by
    constructor
    · rintro hnone ⟨hrest, hmem⟩
      exact hnone _ hmem ((inAnyCase_lone_iff h hmem).mpr ⟨hrest, rfl⟩)
    · intro hnot word hword hcase
      obtain ⟨hrest, rfl⟩ := (inAnyCase_lone_iff h hword).mp hcase
      exact hnot ⟨hrest, hword⟩
  rw [ne_eq, ← hempty, hlone, ← lowered_eq_word_iff (by simp), commandOf_eq]
  generalize String.ofList (Text.lowered (firstWord text)) = word
  by_cases hrest : trim (afterWord text) = []
  · simp only [hrest, loneCommands, List.mem_cons, List.not_mem_nil, or_false, true_and]
    grind
  · simp only [hrest, false_and, not_false_eq_true, true_and, ne_eq, if_true]
    grind

theorem isQuestion_iff : IsQuestion line ↔ commandOf (trim line.toList) = .question := by
  rw [commandOf_eq_question_iff (isTrimmed_trim _)]
  constructor
  · rintro ⟨hne, hlone, hfix⟩
    exact ⟨hne, hlone, hfix⟩
  · rintro ⟨hne, hlone, hfix⟩
    exact ⟨hne, hlone, hfix⟩

example : IsQuestion "Help me with main.tf" ∧ ¬ IsQuestion " HELP " ∧ ¬ IsQuestion "Fix it" := by
  decide +kernel

theorem asksFix_iff {file issue : List Char} :
    AsksFix line file issue ↔ ∃ arguments, commandOf (trim line.toList) = .fix arguments ∧
      fixArguments? arguments = some (String.ofList file, String.ofList issue) := by
  constructor
  · rintro ⟨word, rest, hline, hword, hrest⟩
    obtain ⟨rfl, rfl, -⟩ := (isTrimmed_trim _).parts_iff.mp hline
    obtain ⟨rfl, rfl, hissue⟩ := (isTrimmed_trim _).parts_iff.mp hrest
    exact ⟨_, commandOf_eq_fix_iff.mpr ⟨hword, rfl⟩,
      fixArguments?_eq_some_iff.mpr ⟨hissue, rfl, rfl⟩⟩
  · rintro ⟨arguments, hcommand, hsome⟩
    obtain ⟨hword, rfl⟩ := commandOf_eq_fix_iff.mp hcommand
    obtain ⟨hissue, hfile, hrest⟩ := fixArguments?_eq_some_iff.mp hsome
    rw [String.ofList_inj] at hfile hrest
    have hfix : Parts (trim (afterWord (trim line.toList))) file issue :=
      (isTrimmed_trim _).parts_iff.mpr ⟨hfile, hrest, hrest ▸ hissue⟩
    have hline : Parts (trim line.toList) (firstWord (trim line.toList))
        (trim (afterWord (trim line.toList))) := by
      refine (isTrimmed_trim _).parts_iff.mpr ⟨rfl, rfl, ?_⟩
      intro hnil
      rw [hnil] at hissue
      exact hissue rfl
    exact ⟨_, _, hline, hword, hfix⟩

/-! ### One line -/

theorem gatherContext_eq_ok_iff {files : FileSystem} {o : Options} {directory : Path}
    {context : Prompt.Context} :
    gatherContext files o directory = .ok context ↔
      ∃ sources a, loadDirectory files o.scan directory = .ok sources ∧
        analyzeFiles directory sources = .ok a ∧ context = ⟨sources, a, ""⟩ := by
  simp only [gatherContext, except_bind_eq_ok_iff]
  constructor
  · rintro ⟨sources, hload, a, hanalyze, hcontext⟩
    exact ⟨sources, a, hload, hanalyze, (Except.ok.inj hcontext).symm⟩
  · rintro ⟨sources, a, hload, hanalyze, rfl⟩
    exact ⟨sources, hload, a, hanalyze, rfl⟩

theorem handle_of_sends (server : ModelServer) (h : Sends s line r) :
    s.handle server line = .ofAsked (.sent server r) := by
  cases h with
  | @question files a hline hload hanalyze =>
      have hcontext := gatherContext_eq_ok_iff.mpr ⟨files, a, hload, hanalyze, rfl⟩
      simp only [handle, isQuestion_iff.mp hline, ask, Option.mapM_some, hcontext]
      rfl
  | fix hline hread =>
      obtain ⟨arguments, hcommand, hsome⟩ := asksFix_iff.mp hline
      simp [handle, hcommand, hsome, suggestFix, hread]

/-- A line that sends nothing leaves the server as it is. -/
theorem handle_of_silent (server : ModelServer) (h : ∀ r, ¬ Sends s line r) :
    (s.handle server line).request = none ∧ (s.handle server line).server = server := by
  cases hcommand : commandOf (trim line.toList) with
  | nothing => simp [handle, hcommand, Turn.plain]
  | quit => simp [handle, hcommand, Turn.plain]
  | help => simp [handle, hcommand, Turn.plain]
  | status => simp [handle, hcommand, Turn.plain]
  | analyze => simp [handle, hcommand]
  | fix arguments =>
      cases hsome : fixArguments? arguments with
      | none => simp [handle, hcommand, hsome, Turn.plain]
      | some pair =>
          obtain ⟨file, issue⟩ := pair
          cases hread : s.files.readSource (s.directory.join file) with
          | error e =>
              simp [handle, hcommand, hsome, suggestFix, hread, Turn.ofAsked, Asked.failed]
          | ok source =>
              have hline : AsksFix line file.toList issue.toList :=
                asksFix_iff.mpr ⟨arguments, hcommand, by simpa using hsome⟩
              exact absurd (.fix hline (by simpa using hread)) (h _)
  | question =>
      cases hcontext : gatherContext s.files s.options s.directory with
      | error e =>
          simp only [handle, hcommand, ask, Option.mapM_some, hcontext]
          exact ⟨rfl, rfl⟩
      | ok context =>
          obtain ⟨sources, a, hload, hanalyze, rfl⟩ := gatherContext_eq_ok_iff.mp hcontext
          exact absurd (.question (isQuestion_iff.mpr hcommand) hload hanalyze) (h _)

theorem request_handle_eq_some_iff (server : ModelServer) :
    (s.handle server line).request = some r ↔ Sends s line r := by
  constructor
  · intro hr
    by_cases hsends : ∃ r', Sends s line r'
    · obtain ⟨r', hr'⟩ := hsends
      rw [handle_of_sends server hr'] at hr
      exact Option.some.inj hr ▸ hr'
    · rw [(handle_of_silent server (not_exists.mp hsends)).1] at hr
      cases hr
  · intro hr
    rw [handle_of_sends server hr]
    rfl

theorem isPrefix_user (o : AgentOptions) (query : String) (context : Option Prompt.Context) :
    ("User Query: " ++ query).toList <+: (Prompt.user o query context).toList := by
  have huser : Prompt.user o query context = "User Query: " ++ query ++
      ("\n" ++ (context.map (Prompt.contextText o)).getD "") := String.append_assoc
  rw [huser]
  exact ⟨_, String.toList_append.symm⟩

theorem isPrefix_prompt (hline : IsQuestion line) (h : Sends s line r) :
    ("User Query: " ++ Text.trimmed line).toList <+: r.prompt.toList := by
  cases h with
  | question _ _ _ => exact isPrefix_user _ _ _
  | fix hfix _ =>
      obtain ⟨arguments, hcommand, -⟩ := asksFix_iff.mp hfix
      rw [isQuestion_iff.mp hline] at hcommand
      cases hcommand

/-! ### A whole session -/

def serverAfter (s : Session) (server : ModelServer) (lines : List String) : ModelServer :=
  lines.foldl (fun server line => (s.handle server line).server) server

theorem handleAll_append (server : ModelServer) (before after : List String) :
    s.handleAll server (before ++ after) =
      s.handleAll server before ++ s.handleAll (s.serverAfter server before) after := by
  induction before generalizing server with
  | nil => rfl
  | cons line before ih => simp [handleAll, serverAfter, ih]

theorem forall₂_requests (s : Session) (server : ModelServer) (lines : List String) :
    List.Forall₂ (fun line turn => ∀ r, turn.request = some r ↔ Sends s line r) lines
      (s.handleAll server lines) := by
  induction lines generalizing server with
  | nil => exact .nil
  | cons line rest ih => exact .cons (fun _ => request_handle_eq_some_iff server) (ih _)

/-- The scripted answers go to the requests in their order, and what comes after the script to
  any further one. -/
theorem reply_of_sent (s : Session) (server : ModelServer) (lines : List String) (k : Nat)
    {turn : Turn} (h : ((s.handleAll server lines).filter (·.request.isSome))[k]? = some turn) :
    turn.reply = ((server.answerTo k).map Answer.ofText).map Reply.answer := by
  induction lines generalizing server k with
  | nil => simp [handleAll] at h
  | cons line rest ih =>
      rw [handleAll] at h
      by_cases hsends : ∃ r, Sends s line r
      · obtain ⟨r, hr⟩ := hsends
        rw [handle_of_sends server hr, List.filter_cons_of_pos (by rfl)] at h
        cases k with
        | zero =>
            rw [List.getElem?_cons_zero, Option.some_inj] at h
            rw [← h, ← server.generate_fst]
            rfl
        | succ k =>
            rw [List.getElem?_cons_succ] at h
            rw [← server.answerTo_generate]
            exact ih _ k h
      · obtain ⟨hnone, hserver⟩ := handle_of_silent server (not_exists.mp hsends)
        rw [List.filter_cons_of_neg (by simp [hnone]), hserver] at h
        exact ih server k h

/-- A line that sends nothing might as well not be there. -/
theorem handleAll_silent (server : ModelServer) (before after : List String)
    (h : ∀ r, ¬ Sends s line r) :
    ∃ turn rest, turn.request = none ∧
      s.handleAll server (before ++ line :: after) = s.handleAll server before ++ turn :: rest ∧
      s.handleAll server (before ++ after) = s.handleAll server before ++ rest := by
  obtain ⟨hnone, hserver⟩ := handle_of_silent (s.serverAfter server before) h
  refine ⟨_, _, hnone, ?_, handleAll_append server before after⟩
  rw [handleAll_append, handleAll, hserver]

/-- Every line sends the request it asks for and no other, so the requests come in the order of the
  lines. A question is put to the model in its own words, the scripted answers go to the requests
  one by one, and a line that sends nothing changes no other turn. -/
theorem handleAll_requests (s : Session) (server : ModelServer) (lines : List String) :
    List.Forall₂ (fun line turn => ∀ r, turn.request = some r ↔ Sends s line r) lines
        (s.handleAll server lines) ∧
      (∀ line r, IsQuestion line → Sends s line r →
        ("User Query: " ++ Text.trimmed line).toList <+: r.prompt.toList) ∧
      (∀ k turn, ((s.handleAll server lines).filter (·.request.isSome))[k]? = some turn →
        turn.reply = ((server.answerTo k).map Answer.ofText).map Reply.answer) ∧
      ∀ before line after, lines = before ++ line :: after → (∀ r, ¬ Sends s line r) →
        ∃ turn rest, turn.request = none ∧
          s.handleAll server lines = s.handleAll server before ++ turn :: rest ∧
          s.handleAll server (before ++ after) = s.handleAll server before ++ rest := by
  refine ⟨forall₂_requests s server lines, ?_, ?_, ?_⟩
  · intro line r hline hr
    exact isPrefix_prompt hline hr
  · intro k turn hturn
    exact reply_of_sent s server lines k hturn
  · rintro before line after rfl hsilent
    exact handleAll_silent server before after hsilent

end Session

end Terralens

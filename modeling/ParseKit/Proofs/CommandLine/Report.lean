import ParseKit.CommandLine.Grammars
import ParseKit.Proofs.Grammar.Engine
import ParseKit.Proofs.Text.Lines

namespace ParseKit.CommandLine

variable {σ : Type}

-- One parse of a text, from a start if one is asked for.
def parseText (host : Host σ) (engine : Engine σ) (start : Option (Given String)) (text : String) :
    Run σ ParseResult := do
  let options ← Run.alloc (.dict (.ofEntries (← optionEntries start)))
  parse (.parser (engine.parser (some (Actions.generic host)))) (.text text) options

theorem parseWith_eq (host : Host σ) (engine : Engine σ) (start : Option (Given String))
    (text : String) :
    parseWith host engine start text = parseText host engine start text >>= report := by
  simp only [parseWith, parseText, bind_assoc]

-- The entries of the options.
def startEntries : Option (Given String) → List (Value × Value)
  | some (.value name) => [(.text "start_rule", .text name)]
  | _ => []

theorem optionEntries_apply {start : Option (Given String)} (h : start ≠ some .nothing)
    (w : World σ) : optionEntries start w = .ok (startEntries start) w := by
  rcases start with _ | _ | name
  · rfl
  · exact absurd rfl h
  · rfl

theorem get_startEntries (start : Option (Given String)) (s : Store) :
    (Options.get s (startEntries start) "start_rule" = .null ∨
      s.isText (Options.get s (startEntries start) "start_rule") = true) ∧
    Options.get s (startEntries start) "make_ast" = .null := by
  have hstart : s.same (.text "start_rule") (.text "start_rule") = true := s.same_refl _
  have hother : s.same (.text "start_rule") (.text "make_ast") = false := by
    simp [Store.same_text, Store.text?]
  rcases start with _ | _ | name
  · exact ⟨.inl rfl, rfl⟩
  · exact ⟨.inl rfl, rfl⟩
  · simp [Options.get, Store.lookup?, startEntries, hstart, hother, Store.isText, Store.text?]

theorem startEntries_valid (start : Option (Given String)) {s : Store} {options : Value}
    (hoptions : s.get? options = some (.dict (.ofEntries (startEntries start)))) :
    Options.Valid s options (startEntries start) ∧
      Options.get s (startEntries start) "make_ast" = .null ∧
      ∀ e ∈ startEntries start, s.Stands e.1 := by
  obtain ⟨hrule, hbuilder⟩ := get_startEntries start s
  refine ⟨⟨?_, hrule, .inl hbuilder⟩, hbuilder, ?_⟩
  · cases options with
    | ref id => simp [Options.entries, Store.entries?, hoptions, Dictionary.ofEntries]
    | _ => cases hoptions
  · rcases start with _ | _ | name
    · simp [startEntries]
    · simp [startEntries]
    · simp [startEntries, Store.Stands]

theorem checkStartRule_error {s : Store} {given : List (Value × Value)} {rule : Value}
    (hrule : Options.get s given "start_rule" = rule) (hnull : rule ≠ .null)
    (htext : s.isText rule = false) : Options.checkStartRule s given ≠ .ok () := by
  subst hrule
  unfold Options.checkStartRule
  simp only [hnull, htext, Bool.false_eq_true, or_self, if_false]
  cases s.inspect (Options.get s given "start_rule") <;> simp [bind, Except.bind]

-- A start is a text, or there is none.
theorem parseText_nothing {host : Host σ} {engine : Engine σ} {text : String} {r : ParseResult}
    {w w' : World σ} : parseText host engine (some .nothing) text w ≠ .ok r w' := by
  intro h
  let entries := [(Value.text "start_rule", (w.store.alloc (.list [])).1)]
  let s₁ := (w.store.alloc (.list [])).2
  let options := (s₁.alloc (.dict (.ofEntries entries))).1
  let s₂ := (s₁.alloc (.dict (.ofEntries entries))).2
  have hparse : parse (.parser (engine.parser (some (Actions.generic host)))) (.text text) options
      { w with store := s₂ } = .ok r w' := h
  obtain ⟨_, w₁, htext, hparse⟩ := Run.ok_of_bind hparse
  obtain ⟨prepared, _, hprepare, -⟩ := Run.ok_of_bind hparse
  obtain ⟨given, w₂, hentries, hprepare⟩ := Run.ok_of_bind hprepare
  obtain ⟨_, _, hrule, -⟩ := Run.ok_of_bind hprepare
  obtain ⟨-, rfl⟩ := Run.ok_of_inspect htext
  obtain ⟨hgiven, rfl⟩ := Run.ok_of_inspect hentries
  obtain ⟨hchecked, -⟩ := Run.ok_of_inspect hrule
  have hoptions : Options.entries s₂ options = .ok entries := by
    have hdict : s₂.get? options = some (.dict (.ofEntries entries)) := Store.get?_alloc_here s₁ _
    simp only [Options.entries, options, Store.alloc] at hdict ⊢
    simp [Store.entries?, hdict, Dictionary.ofEntries]
  cases hoptions.symm.trans hgiven
  have hlist : s₂.get? (w.store.alloc (.list [])).1 = some (.list []) :=
    Store.get?_alloc_elsewhere _ (Store.get?_alloc_here w.store _)
  have hfound : Options.get s₂ entries "start_rule" = (w.store.alloc (.list [])).1 := by
    simp [Options.get, Store.lookup?, entries, Store.same_refl]
  have hnull : (w.store.alloc (.list [])).1 ≠ .null := by simp [Store.alloc]
  have htext : s₂.isText (w.store.alloc (.list [])).1 = false := by
    simp [Store.isText, Store.text?_of_get? hlist rfl]
  exact checkStartRule_error hfound hnull htext hchecked

theorem parseText_apply {start : Option (Given String)} (h : start ≠ some .nothing)
    (host : Host σ) (engine : Engine σ) (text : String) (w : World σ) :
    ∃ options s, w.store.Extends s ∧
      s.get? options = some (.dict (.ofEntries (startEntries start))) ∧
      parseText host engine start text w =
        parse (.parser (engine.parser (some (Actions.generic host)))) (.text text) options
          { w with store := s } := by
  refine ⟨_, _, .alloc w.store _, Store.get?_alloc_here w.store _, ?_⟩
  rw [parseText, Run.bind_apply, optionEntries_apply h]
  rfl

theorem parseText_shown {host : Host σ} {engine : Engine σ} {start : Option (Given String)}
    {text : String} {r : ParseResult} {w w' : World σ} (htrees : engine.GivesTrees)
    (h : parseText host engine start text w = .ok r w') :
    (r.error = none ∧ ((w'.store.node? r.ast).isSome = true →
      ∃ body, Node.dump r.ast w' = .ok (body ++ "]" ++ "\n") w')) ∨
    ∃ d message, r.error = some d ∧ d.render w'.store true = .ok message := by
  by_cases hstart : start = some .nothing
  · rw [hstart] at h
    exact absurd h parseText_nothing
  obtain ⟨options, s, -, hoptions, hparse⟩ := parseText_apply hstart host engine text w
  obtain ⟨hvalid, hbuilder, hkeys⟩ := startEntries_valid start hoptions
  rw [hparse] at h
  have htext : ({ w with store := s } : World σ).store.text? (.text text) = some text := rfl
  exact parse_shown htext hvalid hbuilder hkeys htrees h

namespace Report

theorem trimNewlines_append (body : String) : trimNewlines (body ++ "]" ++ "\n") = body ++ "]" := by
  simp [trimNewlines]

-- The report of a success shows a dump as it is.
theorem stdout_success (body : String) :
    (success (body ++ "]" ++ "\n")).stdout = body ++ "]" ++ "\n" := by
  rw [success, trimNewlines_append]

-- The lines of a failure are those of the message under a heading, each behind the same mark.
theorem stderr_failure (message : String) : ∃ rest lines,
    (failure message).stderr = rest ++ "\n" ∧
    rest.splitOn "\n" = lines.map ("ERROR: " ++ ·) ∧
    "\n".intercalate lines = "Parsing Failure:\n" ++ message := by
  let shown := "Parsing Failure:\n" ++ message
  refine ⟨prefixLines "ERROR: " shown, shown.splitOn "\n", rfl, ?_, Text.intercalate_splitOn shown⟩
  refine Text.splitOn_intercalate (fun line hline => ?_) ?_
  · obtain ⟨rest, hrest, rfl⟩ := List.mem_map.mp hline
    have hmark : '\n' ∉ "ERROR: ".toList := by decide
    rw [String.toList_append, List.mem_append, not_or]
    exact ⟨hmark, Text.not_mem_line hrest⟩
  · rw [Text.splitOn_eq]
    simp [List.splitOn_ne_nil]

end Report

theorem report_success {r : ParseResult} {dump : String} {w : World σ} (hnone : r.error = none)
    (hdump : Node.dump r.ast w = .ok dump w) : report r w = .ok (.success dump) w := by
  rw [report, hnone]
  dsimp only
  rw [Run.bind_apply, hdump]
  rfl

theorem report_failure {r : ParseResult} {d : Diagnostic} {message : String} {w : World σ}
    (hsome : r.error = some d) (hrender : d.render w.store true = .ok message) :
    report r w = .ok (.failure message) w := by
  rw [report, hsome]
  dsimp only
  rw [Run.bind_apply, Run.inspect_ok hrender]
  rfl

theorem readFile_text {surroundings : Surroundings} {path text : String} {content : ByteArray}
    (hpath : '\x00' ∉ path.toList) (hfile : surroundings.file (normalPath path) = .ok content)
    (htext : String.fromUTF8? content = some text) :
    readFile surroundings path = .ok (.ok (String.ofList (unifyLineEnds text.toList))) := by
  rw [readFile, String.contains_char_eq, if_neg (by simpa using hpath), hfile]
  simp only [decode, htext]
  rfl

-- The program reads the grammar, then the input, and only then makes an engine of the grammar.
theorem run_apply {a : Arguments} {grammarPath inputPath : String} (loader : Loader σ)
    (host : Host σ) (surroundings : Surroundings) (hgrammar : a.grammar = .value grammarPath)
    (hinput : a.input = .value inputPath) (w : World σ) :
    run loader host surroundings a w =
      match readFile surroundings grammarPath with
      | .error e => .error (.raised e) w
      | .ok (.error message) => .ok (.systemError message) w
      | .ok (.ok grammar) =>
        match readInput surroundings inputPath with
        | .error e => .error (.raised e) w
        | .ok (.error message) => .ok (.systemError message) w
        | .ok (.ok text) =>
          match loadEngine loader a.parser (starts a.start) grammar with
          | .error message => .ok (.grammarFault grammarPath message) w
          | .ok engine => (parseText host engine a.start text >>= report : Run σ Report) w := by
  simp only [run, hgrammar, hinput, requirePath, pure_bind]
  rcases readFile surroundings grammarPath with e | message | grammar
  · rfl
  · rfl
  rcases readInput surroundings inputPath with e | message | text
  · rfl
  · rfl
  simp only [Run.ofExcept_ok, pure_bind]
  cases loadEngine loader a.parser (starts a.start) grammar with
  | error message => rfl
  | ok engine => simp only [parseWith_eq]

-- The engines of this library's own give trees for every grammar.
theorem loadGrammar_givesTrees {parser : ParserChoice} {starts : List String} {source : String}
    {engine : Engine σ} (h : loadGrammar parser starts source = .ok engine) :
    engine.GivesTrees := by
  simp only [loadGrammar] at h
  cases hengine : (Engine.ofGrammar { algorithm := parser.algorithm, starts := starts } source :
      Except GrammarFault (Engine σ)) with
  | error fault =>
      rw [hengine] at h
      cases h
  | ok made =>
      rw [hengine] at h
      cases h
      exact Engine.ofGrammar_givesTrees hengine

-- What the program prints about a parse is the dump of the tree as it is, or the diagnostic line by
-- line, and nothing else.
theorem run_prints {loader : Loader σ} {host : Host σ} {surroundings : Surroundings} {a : Arguments}
    {grammarPath inputPath grammar text : String} {engine : Engine σ} {r : ParseResult}
    {w w' : World σ} (hgrammar : a.grammar = .value grammarPath)
    (hinput : a.input = .value inputPath)
    (hsource : readFile surroundings grammarPath = .ok (.ok grammar))
    (htext : readInput surroundings inputPath = .ok (.ok text))
    (hengine : loadEngine loader a.parser (starts a.start) grammar = .ok engine)
    (htrees : engine.GivesTrees)
    (hparsed : parseText host engine a.start text w = .ok r w')
    (hnode : r.error = none → (w'.store.node? r.ast).isSome = true) :
    ∃ printed, run loader host surroundings a w = .ok printed w' ∧
      (printed.code = 0 ∨ printed.code = 1) ∧ (printed.code = 0 ↔ r.error = none) ∧
      (printed.code = 0 → ∃ body, body.toList.getLast? ≠ some '\n' ∧
        Node.dump r.ast w' = .ok (body ++ "\n") w' ∧ printed.stdout = body ++ "\n" ∧
        printed.stderr = "") ∧
      (printed.code = 1 → ∃ d message rest lines, r.error = some d ∧
        d.render w'.store true = .ok message ∧ printed.stdout = "" ∧
        printed.stderr = rest ++ "\n" ∧ rest.splitOn "\n" = lines.map ("ERROR: " ++ ·) ∧
        "\n".intercalate lines = "Parsing Failure:\n" ++ message) := by
  have hrun := run_apply loader host surroundings hgrammar hinput w
  simp only [hsource, htext, hengine, Run.bind_apply, hparsed] at hrun
  rcases parseText_shown htrees hparsed with ⟨hnone, hdump⟩ | ⟨d, message, hsome, hrender⟩
  · obtain ⟨body, hbody⟩ := hdump (hnode hnone)
    refine ⟨.success (body ++ "]" ++ "\n"), hrun.trans (report_success hnone hbody), .inl rfl,
      by simp [hnone, Report.success], ?_, ?_⟩
    · intro _
      exact ⟨body ++ "]", by simp, hbody, Report.stdout_success body, rfl⟩
    · rintro ⟨⟩
  · obtain ⟨rest, lines, hstderr, hmarked, hlines⟩ := Report.stderr_failure message
    refine ⟨.failure message, hrun.trans (report_failure hsome hrender), .inr rfl,
      by simp [hsome, Report.failure], ?_, fun _ =>
      ⟨d, message, rest, lines, hsome, hrender, rfl, hstderr, hmarked, hlines⟩⟩
    rintro ⟨⟩

-- A grammar of words. Only the empty text is no word.
private def word (text : String) : Except Rejection SyntaxTree :=
  if text = "" then .error (.ending ["WORD"])
  else
    let extent : Extent := ⟨{}, Cursor.advance {} text.toList⟩
    .ok (.tree (.rule "word") [.token "WORD" text extent] (some extent) (some extent))

private def wordEngine : Engine Unit := Engine.ofParse ["start"] true fun _ => word

private def silent : Host Unit where
  call := fun _ _ => pure .null
  build := fun _ _ _ => pure .null
  locate := fun _ => pure .null

private def blank : World Unit := { store := {}, log := [], client := () }

private def piped (input : String) : Surroundings where
  file := fun _ => .ok "start: WORD".toUTF8
  standardInput := input.toUTF8

private def fromPipe : Arguments := ⟨.value "words", .value "-", none, .value .earley, false⟩

private def parsed (text : String) (check : ParseResult → World Unit → Bool) : Bool :=
  match parseText silent wordEngine none text blank with
  | .ok r w => check r w
  | .error _ _ => false

private theorem exists_of_parsed {text : String} {check : ParseResult → World Unit → Bool}
    (h : parsed text check = true) :
    ∃ r w, parseText silent wordEngine none text blank = .ok r w ∧ check r w = true := by
  unfold parsed at h
  split at h
  · exact ⟨_, _, ‹_›, h⟩
  · cases h

private def showsNode (r : ParseResult) (w : World Unit) : Bool :=
  match Node.dump r.ast w with
  | .ok dump _ =>
    dump == "word (value: \"ab\") [1/1]\n" && r.error.isNone && (w.store.node? r.ast).isSome
  | .error _ _ => false

-- A word, and what is none.
theorem run_prints_word :
    (∃ w', run (fun _ _ _ => .ok wordEngine) silent (piped "ab") fromPipe blank =
      .ok { code := 0, stdout := "word (value: \"ab\") [1/1]\n" } w') ∧
    ∃ printed w', run (fun _ _ _ => .ok wordEngine) silent (piped "") fromPipe blank =
      .ok printed w' ∧ printed.code = 1 ∧ printed.stdout = "" := by
  have hsource := fun input =>
    @readFile_text (piped input) "words" "start: WORD" _ (by decide) rfl (by decide +kernel)
  have htrees : wordEngine.GivesTrees := Engine.ofParse_givesTrees
  constructor
  · obtain ⟨r, w, hparsed, hshown⟩ := @exists_of_parsed "ab" showsNode (by decide +kernel)
    unfold showsNode at hshown
    split at hshown
    · next dump w' hdump =>
      simp only [Bool.and_eq_true, beq_iff_eq, Option.isNone_iff_eq_none] at hshown
      obtain ⟨⟨hdumped, hnone⟩, hnode⟩ := hshown
      obtain ⟨⟨code, stdout, stderr⟩, hrun, -, hcode, hsuccess, -⟩ :=
        @run_prints Unit (fun _ _ _ => .ok wordEngine) silent _ fromPipe _ _ _ _ _ _ _ _ rfl rfl
          (hsource "ab") rfl rfl htrees hparsed fun _ => hnode
      obtain rfl : code = 0 := hcode.mpr hnone
      obtain ⟨body, -, hbody, rfl, rfl⟩ := hsuccess rfl
      rw [hdump] at hbody
      cases hbody
      rw [hdumped] at hrun
      exact ⟨w, hrun⟩
    · cases hshown
  · obtain ⟨r, w, hparsed, hfailed⟩ :=
      @exists_of_parsed "" (fun r _ => r.error.isSome) (by decide +kernel)
    have hsome : r.error ≠ none := Option.isSome_iff_ne_none.mp hfailed
    obtain ⟨printed, hrun, hcodes, hcode, -, hfailure⟩ :=
      @run_prints Unit (fun _ _ _ => .ok wordEngine) silent _ fromPipe _ _ _ _ _ _ _ _ rfl rfl
        (hsource "") rfl rfl htrees hparsed fun hnone => absurd hnone hsome
    have hone : printed.code = 1 := hcodes.resolve_left fun hzero => hsome (hcode.mp hzero)
    obtain ⟨_, _, _, _, -, -, hstdout, -⟩ := hfailure hone
    exact ⟨printed, w, hrun, hone, hstdout⟩

end ParseKit.CommandLine

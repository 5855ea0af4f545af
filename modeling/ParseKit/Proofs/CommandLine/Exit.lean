import ParseKit.Proofs.CommandLine.Report

namespace ParseKit.CommandLine

variable {σ : Type}

-- No file can have such a path, or what is in the file is no text.
def Garbled (surroundings : Surroundings) (path : String) : Prop :=
  '\x00' ∈ path.toList ∨ ∃ content, surroundings.file (normalPath path) = .ok content ∧
    String.fromUTF8? content = none

def GarbledInput (surroundings : Surroundings) (name : String) : Prop :=
  if name = "-" then String.fromUTF8? surroundings.standardInput = none
  else Garbled surroundings name

-- What reading yields: an error over what is garbled, and otherwise the message of why there is
-- nothing to read, or a text.
inductive Yields (garbled : Prop) : Except Failure (Except String String) → Prop where
  | error {e : Failure} (h : garbled) (valueError : e.isA .valueError = true) :
      Yields garbled (.error e)
  | message (h : ¬garbled) (message : String) : Yields garbled (.ok (.error message))
  | text (h : ¬garbled) (text : String) : Yields garbled (.ok (.ok text))

theorem decode_yields (content : ByteArray) :
    Yields (String.fromUTF8? content = none) (do .ok (.ok (← decode content))) := by
  unfold decode
  cases h : String.fromUTF8? content with
  | none => exact .error rfl rfl
  | some text => exact .text (by simp) _

theorem Yields.congr {p q : Prop} {r : Except Failure (Except String String)} (h : Yields p r)
    (hpq : p ↔ q) : Yields q r := by
  rwa [← propext hpq]

theorem readFile_yields (surroundings : Surroundings) (path : String) :
    Yields (Garbled surroundings path) (readFile surroundings path) := by
  unfold readFile
  rw [String.contains_char_eq]
  by_cases hpath : '\x00' ∈ path.toList
  · rw [if_pos (by simpa using hpath)]
    exact .error (.inl hpath) rfl
  · rw [if_neg (by simpa using hpath)]
    cases hfile : surroundings.file (normalPath path) with
    | error e => exact .message (by simp [Garbled, hpath, hfile]) _
    | ok content => exact (decode_yields content).congr (by simp [Garbled, hpath, hfile])

theorem readInput_yields (surroundings : Surroundings) (name : String) :
    Yields (GarbledInput surroundings name) (readInput surroundings name) := by
  unfold readInput GarbledInput
  by_cases hname : name = "-"
  · rw [if_pos hname, if_pos hname]
    exact decode_yields surroundings.standardInput
  · rw [if_neg hname, if_neg hname]
    exact readFile_yields surroundings name

-- The start that an engine is asked to start from.
def startValue : Option (Given String) → Value
  | some (.value name) => .text name
  | _ => .null

theorem get_startValue (start : Option (Given String)) (s : Store) :
    Options.get s (startEntries start) "start_rule" = startValue start := by
  rcases start with _ | _ | name
  · rfl
  · rfl
  · simp [Options.get, Store.lookup?, startEntries, startValue, s.same_refl]

-- A report whose code is one of the three, and that says so if it is the one for errors.
structure Report.Regular (r : Report) : Prop where
  code : r.code = 0 ∨ r.code = 1 ∨ r.code = 2
  error : r.code = 2 → r.stdout = "" ∧ ∃ rest, r.stderr = "Error:" ++ rest ++ "\n"

theorem parseText_orderly {host : Host σ} {engine : Engine σ} {start : Option (Given String)}
    (hstart : start ≠ some .nothing) (horderly : engine.Orderly host (startValue start))
    (text : String) (w : World σ) :
    ∃ printed w', (parseText host engine start text >>= report : Run σ Report) w =
      .ok printed w' ∧ (printed.code = 0 ∨ printed.code = 1) := by
  obtain ⟨options, s, -, hoptions, hparse⟩ := parseText_apply hstart host engine text w
  obtain ⟨hvalid, hbuilder, hkeys⟩ := startEntries_valid start hoptions
  obtain ⟨r, w', hparsed, hr⟩ := parse_orderly (w := { w with store := s }) text hvalid hbuilder
    (get_startValue start s) hkeys horderly
  rw [Run.bind_apply, hparse, hparsed]
  dsimp only
  rcases hr with ⟨hnone, -, body, hdump⟩ | ⟨d, message, hsome, hrender⟩
  · exact ⟨_, w', report_success hnone hdump, .inl rfl⟩
  · exact ⟨_, w', report_failure hsome hrender, .inr rfl⟩

theorem Report.regular_systemError (message : String) : (systemError message).Regular :=
  ⟨.inr (.inr rfl), fun _ => ⟨rfl, " " ++ message, by simp [systemError, ← String.append_assoc]⟩⟩

theorem Report.regular_grammarFault (path message : String) : (grammarFault path message).Regular :=
  ⟨.inr (.inr rfl), fun _ => ⟨rfl,
    " invalid grammar " ++ path ++ ":\n" ++ prefixLines "  " (trimBlanks message), by
      simp [grammarFault, ← String.append_assoc]⟩⟩

-- The program ends with a report, whatever the files are like and the grammar makes of the input,
-- unless it reads what is no text. That goes on to whoever runs the program as an error.
theorem run_ends {loader : Loader σ} {host : Host σ} {surroundings : Surroundings} {a : Arguments}
    {grammarPath inputPath : String} (hgrammar : a.grammar = .value grammarPath)
    (hinput : a.input = .value inputPath) (hstart : a.start ≠ some .nothing)
    (horderly : ∀ grammar engine, readFile surroundings grammarPath = .ok (.ok grammar) →
      loadEngine loader a.parser (starts a.start) grammar = .ok engine →
      engine.Orderly host (startValue a.start)) (w : World σ) :
    let garbled := Garbled surroundings grammarPath ∨
      (∃ grammar, readFile surroundings grammarPath = .ok (.ok grammar)) ∧
        GarbledInput surroundings inputPath
    (garbled → ∃ e, run loader host surroundings a w = .error (.raised e) w ∧
      e.isA .valueError = true) ∧
    (¬garbled → ∃ printed w', run loader host surroundings a w = .ok printed w' ∧
      printed.Regular) := by
  intro garbled
  suffices h : (garbled ∧ ∃ e, run loader host surroundings a w = .error (.raised e) w ∧
      e.isA .valueError = true) ∨ ¬garbled ∧ ∃ printed w',
        run loader host surroundings a w = .ok printed w' ∧ printed.Regular by
    rcases h with ⟨hbad, herror⟩ | ⟨hgood, hreport⟩
    · exact ⟨fun _ => herror, fun hgood => absurd hbad hgood⟩
    · exact ⟨fun hbad => absurd hbad hgood, fun _ => hreport⟩
  have hrun := run_apply loader host surroundings hgrammar hinput w
  have hfile := readFile_yields surroundings grammarPath
  have htext := readInput_yields surroundings inputPath
  simp only [garbled]
  generalize readFile surroundings grammarPath = source at hrun hfile horderly ⊢
  generalize readInput surroundings inputPath = input at hrun htext
  cases hfile with
  | error hbad hvalue => exact .inl ⟨.inl hbad, _, hrun, hvalue⟩
  | message hgood message =>
      refine .inr ⟨?_, _, w, hrun, Report.regular_systemError message⟩
      rintro (hbad | ⟨⟨grammar, hother⟩, -⟩)
      · exact hgood hbad
      · cases hother
  | text hgood grammar =>
      have hgarbled : Garbled surroundings grammarPath ∨
          (∃ g, (.ok (.ok grammar) : Except Failure (Except String String)) = .ok (.ok g)) ∧
            GarbledInput surroundings inputPath ↔ GarbledInput surroundings inputPath := by
        simp [hgood]
      rw [hgarbled]
      cases htext with
      | error hbad hvalue => exact .inl ⟨hbad, _, hrun, hvalue⟩
      | message hgood message =>
          exact .inr ⟨hgood, _, w, hrun, Report.regular_systemError message⟩
      | text hgood text =>
          refine .inr ⟨hgood, ?_⟩
          have hengine := horderly grammar
          dsimp only at hrun
          generalize loadEngine loader a.parser (starts a.start) grammar = loaded at hrun hengine
          cases loaded with
          | error message =>
              exact ⟨_, w, hrun, Report.regular_grammarFault grammarPath message⟩
          | ok engine =>
              obtain ⟨printed, w', hprinted, hcode⟩ :=
                parseText_orderly hstart (hengine engine rfl rfl) text w
              exact ⟨printed, w', hrun.trans hprinted, by omega, fun htwo => by omega⟩

private def mute : Host Unit where
  call := fun _ _ => pure .null
  build := fun _ _ _ => pure .null
  locate := fun _ => pure .null

private def fresh : World Unit := { store := {}, log := [], client := () }

-- A grammar that takes every text for a line.
private def anyLine : Loader Unit := fun _ starts _ =>
  .ok (Engine.ofParse starts true fun _ _ => .ok (.tree (.rule "line") [] none none))

private def fed (input : List UInt8) : Surroundings where
  file := fun _ => .ok "line: /.*/".toUTF8
  standardInput := ⟨input.toArray⟩

private def dashed : Arguments := ⟨.value "lines", .value "-", none, .value .lalr, false⟩

-- A byte that no text has, and one that is a letter.
theorem run_ends_badByte :
    (∃ e, run anyLine mute (fed [0xff]) dashed fresh = .error (.raised e) fresh ∧
      e.isA .valueError = true) ∧
    ∃ printed w', run anyLine mute (fed [0x61]) dashed fresh = .ok printed w' ∧
      printed.Regular := by
  have hgrammar := fun input =>
    @readFile_text (fed input) "lines" "line: /.*/" _ (by decide) rfl (by decide +kernel)
  have horderly : ∀ input grammar engine, readFile (fed input) "lines" = .ok (.ok grammar) →
      loadEngine anyLine dashed.parser (starts dashed.start) grammar = .ok engine →
      engine.Orderly mute (startValue dashed.start) := by
    intro input grammar engine _ hengine
    cases hengine
    refine Engine.ofParse_orderly (.only rfl) fun name text t ht => ?_
    cases ht
    exact ⟨.tree (.inr fun _ => rfl) (by simp), _, _, _, _, rfl⟩
  constructor
  · have hbad : GarbledInput (fed [0xff]) "-" := by
      rw [GarbledInput, if_pos rfl]
      decide +kernel
    obtain ⟨hraises, -⟩ := run_ends (a := dashed) rfl rfl (by decide) (horderly [0xff]) fresh
    exact hraises (.inr ⟨⟨_, hgrammar [0xff]⟩, hbad⟩)
  · have hfile : ¬Garbled (fed [0x61]) "lines" := by
      rintro (hpath | ⟨content, hcontent, hnone⟩)
      · exact absurd hpath (by decide)
      · cases hcontent
        exact absurd hnone (by decide +kernel)
    have hinput : ¬GarbledInput (fed [0x61]) "-" := by
      rw [GarbledInput, if_pos rfl]
      decide +kernel
    obtain ⟨-, hreports⟩ := run_ends (a := dashed) rfl rfl (by decide) (horderly [0x61]) fresh
    exact hreports fun hbad => hbad.elim hfile fun h => hinput h.2

end ParseKit.CommandLine

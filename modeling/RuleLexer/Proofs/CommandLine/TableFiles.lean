import RuleLexer.CommandLine.Run
import RuleLexer.Proofs.Except
import RuleLexer.Proofs.Token.Lines

/-!
# Tables from files

A run that is given a table in a file, a text and a format, and no settings of its own, writes what
the table finds in the text. The limits of the run are the ones that the settings have from the
start, whatever limits the table asks for; only the treatment of line ends is left to the table.
What the run logs is not modelled.

## Main result

`CommandLine.respond_tableFile`: what such a run writes.
-/
namespace RuleLexer

open Text

/-- Tokens that tile a text can be written in any format. -/
theorem Token.exists_format_of_tiles {text : List Char} {tokens : List Token}
    (tiled : Tiles text 0 (tokens.map Token.span) (byteLength text)) (format : TokenFormat) :
    ∃ written, Token.format tokens text format = .ok written := by
  obtain ⟨entries, rfl, -, each, -⟩ := tiled.exists_placed
  exact ⟨_, TokenFormat.format_eq_render each⟩

/-- A file that a text has been written to holds this text. -/
theorem File.Files.readText_of_toUTF8 {files : Files} {path text : String}
    (written : files path = .ok text.toUTF8) : files.readText path = .ok text := by
  have valid : text.toUTF8.IsValidUTF8 := text.isValidUTF8
  have decoded : String.fromUTF8? text.toUTF8 = some text := dif_pos valid
  simp only [readText, written, bind, Except.bind, decoded, pure, Except.pure]

/-- The name of a format lies over the settings that there are from the start. -/
theorem Settings.load_format (files : File.Files) (name : String) :
    load files [.single CommandLine.formatPath (.text name.toList)] = .ok { format := name } := by
  have laid : load files [.single CommandLine.formatPath (.text name.toList)] =
      .ok { format := String.ofList name.toList } := rfl
  rwa [String.ofList_toList] at laid

namespace CommandLine

/-- The options of a table's runs, with the limits that the settings have from the start. -/
def settledLimits (options : RunOptions) : RunOptions where
  resetOnNewline := options.resetOnNewline
  maxStackDepth := 1024
  maxDelegateDepth := 32

variable {files : File.Files} {path tablePath name tableText text : String} {table : RuleTable}
  {format : TokenFormat}

/-- A table in a file is found if the text of the file defines it. -/
theorem chooseTable_file (definition : files.readText tablePath = .ok tableText)
    (built : tableOfText (isJsonPath tablePath) tableText = .ok table) :
    chooseTable files path (.file tablePath) = .ok table := by
  simp [chooseTable, tableOfFile, readText, definition, built, Except.mapError, bind, Except.bind]

/-- What a run without settings of its own comes down to, once everything it needs is found. -/
theorem Invocation.run_eq (found : chooseTable files path (.file tablePath) = .ok table)
    (source : files.readText path = .ok text) (known : TokenFormat.parse name = .ok format)
    {written : List Char}
    (formatted : formatTokens (table.withRunOptions (settledLimits table.options.run))
      text.toList format = .ok written) :
    run files ⟨path, .file tablePath, some name, none⟩ = .ok (String.ofList written) := by
  have settings := Settings.load_format files name
  have options : runOptions { format := name } table = settledLimits table.options.run := rfl
  simp [run, settingsSources, settings, known, found, readText, source, options, formatted,
    Except.mapError, bind, Except.bind, pure, Except.pure]

/-- A run that writes something ends well. -/
theorem respond_eq {arguments : List String} {invocation : Invocation} {written : String}
    (asked : Request.parse arguments = .ok (.tokenize invocation))
    (ran : invocation.run files = .ok written) : respond files arguments = ⟨0, written, ""⟩ := by
  simp only [respond, asked, Request.respond, ran]

/-- **Tables from files.** Let the arguments ask for a text, a table in a file and a format, and for
no settings. If both files can be read, the table can be built and the format is known, then the
program ends well and writes the tokens that the table finds in the text, in the format and with the
table's own treatment of line ends, but with the limits that the settings have from the start. There
is no error, so it has no message; a warning that is logged where a limit is met is not spoken of. -/
theorem respond_tableFile {arguments : List String}
    (asked : Request.parse arguments =
      .ok (.tokenize ⟨path, .file tablePath, some name, none⟩))
    (definition : files.readText tablePath = .ok tableText)
    (built : tableOfText (isJsonPath tablePath) tableText = .ok table)
    (source : files.readText path = .ok text) (known : TokenFormat.parse name = .ok format) :
    let settled := table.withRunOptions {
      resetOnNewline := table.options.run.resetOnNewline
      maxStackDepth := 1024
      maxDelegateDepth := 32 }
    ∃ written, Token.format (settled.tokenize [] text.toList).drain.1 text.toList format =
        .ok written ∧
      respond files arguments = ⟨0, String.ofList written, ""⟩ := by
  intro settled
  have whole := (Tokens.drain_start [] settled text.toList RuleTable.rootName).1
  have spelled : Spells 0 ((settled.tokenize [] text.toList).drain.1.map Token.span)
      text.toList := by
    have spelled := Engine.run_spells [] (.start settled text.toList RuleTable.rootName 0)
    rwa [← whole] at spelled
  have within : text.toList = [] ++ (text.toList ++ []) := by simp
  have tiled := spelled.tiles within rfl
  rw [Nat.zero_add] at tiled
  obtain ⟨written, formatted⟩ := Token.exists_format_of_tiles tiled format
  have ran := Invocation.run_eq (chooseTable_file definition built) source known formatted
  exact ⟨written, formatted, respond_eq asked ran⟩

/-! ### A table with a limit of its own -/

/-- The text of a file with a table that keeps to a stack of one state. -/
def shallowDefinition : String :=
  "\x7b\"name\":\"shallow\",\"options\":\x7b\"max_stack_depth\":1\x7d,\"states\":\x7b" ++
    "\"root\":[\x7b\"pattern\":\"a\",\"token\":\"Name\",\"next\":\"inner\"\x7d]," ++
    "\"inner\":[\x7b\"pattern\":\"a\",\"token\":\"Number\"\x7d]\x7d\x7d"

/-- A file with the table, and any other file with a text. -/
def shallowFiles : File.Files := fun path =>
  .ok (if path = "shallow.json" then shallowDefinition else "aa").toUTF8

def shallowArguments : List String := ["text", "--table", "shallow.json", "--format", "simple"]

theorem parse_shallowArguments : Request.parse shallowArguments =
    .ok (.tokenize ⟨"text", .file "shallow.json", some "simple", none⟩) := by
  decide +kernel

theorem readText_shallowFiles : shallowFiles.readText "shallow.json" = .ok shallowDefinition ∧
    shallowFiles.readText "text" = .ok "aa" :=
  ⟨File.Files.readText_of_toUTF8 rfl, File.Files.readText_of_toUTF8 rfl⟩

/-- Whether two texts are written under a table's own limits and under those of the settings. -/
def writes (table : RuleTable) (own settled : List Char) : Bool :=
  Invocation.formatTokens table "aa".toList .simple = .ok own &&
    Invocation.formatTokens (table.withRunOptions (settledLimits table.options.run))
      "aa".toList .simple = .ok settled

/-- Where the table cannot enter its second state, the second letter is a name as well. -/
theorem exists_shallow :
    ∃ table, tableOfText (isJsonPath "shallow.json") shallowDefinition = .ok table ∧
      writes table "<Name:a>\n<Name:a>\n".toList "<Name:a>\n<Number:a>\n".toList := by
  exact exists_ok_of_any (by decide +kernel)

/-- The table asks for a stack of one state, and the run gives it more. -/
theorem respond_tableFile_of_shallow :
    ∃ table, tableOfText (isJsonPath "shallow.json") shallowDefinition = .ok table ∧
      ∃ written, respond shallowFiles shallowArguments = ⟨0, String.ofList written, ""⟩ ∧
        written = "<Name:a>\n<Number:a>\n".toList := by
  obtain ⟨table, built, writes⟩ := exists_shallow
  obtain ⟨definition, source⟩ := readText_shallowFiles
  obtain ⟨written, formatted, responds⟩ :=
    respond_tableFile parse_shallowArguments definition built source rfl
  simp only [CommandLine.writes, Bool.and_eq_true, decide_eq_true_eq] at writes
  exact ⟨table, built, written, responds, Except.ok.inj (formatted.symm.trans writes.2)⟩

/-- What the run writes is not what the table finds within its own limit. -/
theorem exists_overruled_limit :
    ∃ table, tableOfText (isJsonPath "shallow.json") shallowDefinition = .ok table ∧
      Request.parse shallowArguments =
        .ok (.tokenize ⟨"text", .file "shallow.json", some "simple", none⟩) ∧
      shallowFiles.readText "shallow.json" = .ok shallowDefinition ∧
      shallowFiles.readText "text" = .ok "aa" ∧
      ∃ written, Token.format (table.tokenize [] "aa".toList).drain.1 "aa".toList .simple =
          .ok written ∧
        respond shallowFiles shallowArguments ≠ ⟨0, String.ofList written, ""⟩ := by
  obtain ⟨table, built, writes⟩ := exists_shallow
  obtain ⟨definition, source⟩ := readText_shallowFiles
  simp only [CommandLine.writes, Bool.and_eq_true, decide_eq_true_eq] at writes
  refine ⟨table, built, parse_shallowArguments, definition, source, _, writes.1, ?_⟩
  have known : TokenFormat.parse "simple" = .ok .simple := rfl
  have ran := Invocation.run_eq (chooseTable_file definition built) source known writes.2
  rw [respond_eq parse_shallowArguments ran]
  decide +kernel

end CommandLine

end RuleLexer

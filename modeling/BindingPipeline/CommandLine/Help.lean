/-
BindingPipeline/CommandLine/Help.lean

The help texts: what a command is for, how it is written, and what each of its options means.  Subcommands stand
beside their meanings; the meaning of an option stands on a line of its own.
-/
import BindingPipeline.CommandLine.Arguments

namespace BindingPipeline.CommandLine

/-- What can be written on a command line, and what it means. -/
structure Entry where
  written : String
  meaning : String
  deriving DecidableEq, Repr

/-- A text filled up with blanks to a width. -/
def padded (width : Nat) (t : String) : String :=
  t ++ String.ofList (List.replicate (width - t.length) ' ')

/-- An entry with its meaning in a second column. -/
def Entry.inColumns (width : Nat) (e : Entry) : List String :=
  ["  " ++ padded width e.written ++ "  " ++ e.meaning]

/-- An entry with its meaning on the next line. -/
def Entry.onTwoLines (e : Entry) : List String := ["  " ++ e.written, "          " ++ e.meaning]

namespace Topic

/-- What the command is for. -/
def meaning : Topic → String
  | program => "Generate interface and metadata files for the numeric binding"
  | generate => "Write the interface description and metadata module"
  | build => "Generate, stage the generated files, and run the packaging stages"
  | inspect => "Print the compiled metadata module without writing files"
  | status => "Report which generated files are missing or out of date"
  | help => "Print this message or the help of the given subcommand(s)"

/-- How the command is written. -/
def usage : Topic → String
  | program => "numweld [OPTIONS] <COMMAND>"
  | generate => "numweld generate [OPTIONS]"
  | build => "numweld build [OPTIONS]"
  | inspect => "numweld inspect [OPTIONS]"
  | status => "numweld status [OPTIONS]"
  | help => "numweld help [COMMAND]..."

/-- The subcommands. -/
def subcommands : List Entry :=
  [⟨"generate", generate.meaning⟩, ⟨"build", build.meaning⟩, ⟨"inspect", inspect.meaning⟩,
    ⟨"status", status.meaning⟩, ⟨"help", help.meaning⟩]

/-- The options that a subcommand has for itself. -/
def ownOptions : Topic → List Entry
  | build => [⟨"    --dry-run", "Report the stages and copies without performing them"⟩]
  | inspect =>
    [⟨"    --format <FORMAT>",
      "Output encoding: \"python\" or \"json\" (defaults to the manifest's format)"⟩]
  | _ => []

/-- The lines that list the options. -/
def optionLines (t : Topic) : List String :=
  let manifest : Entry := ⟨"    --config <CONFIG>",
    "Pipeline manifest; sources resolve relative to its directory [default: " ++ defaultManifest.text ++ "]"⟩
  let buildRoot : Entry := ⟨"    --build-root <BUILD_ROOT>",
    "Write generated files under this directory instead of the working directory"⟩
  let entries := manifest :: t.ownOptions ++ [buildRoot, ⟨"-h, --help", "Print help"⟩]
  "Options:" :: entries.flatMap Entry.onTwoLines

/-- The lines behind the usage. -/
def details : Topic → List String
  | program => "Commands:" :: subcommands.flatMap (Entry.inColumns 8) ++ "" :: program.optionLines
  | help => "Arguments:" :: (⟨"[COMMAND]...", "Print help for the subcommand(s)"⟩ : Entry).inColumns 0
  | t => t.optionLines

/-- The help text. -/
def text (t : Topic) : String :=
  String.join (([t.meaning, "", "Usage: " ++ t.usage, ""] ++ t.details).map (· ++ "\n"))

end Topic

end BindingPipeline.CommandLine

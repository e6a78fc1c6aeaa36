/-
BindingPipeline/CommandLine/Arguments.lean

What the words of a command line ask for.  Two options may stand before the subcommand or behind it; one that
stands behind it counts.  An option stands at most once on either side, and nothing else than options
may follow a subcommand.  Words that ask for help count as soon as they are met, unless something was wrong
before them.
-/
import BindingPipeline.Metadata.Format
import BindingPipeline.Path

namespace BindingPipeline.CommandLine

/-- What is to be done. -/
inductive Verb
  | generate
  | build (isDryRun : Bool)
  | inspect (format : Option Metadata.Format)
  | status
  deriving DecidableEq, Repr

/-- What a command line asks for. -/
structure Request where
  config : Path
  buildRoot : Option Path
  verb : Verb
  deriving DecidableEq, Repr

/-- What help can be asked about: the program, one of its subcommands, or asking for help itself. -/
inductive Topic
  | program
  | generate
  | build
  | inspect
  | status
  | help
  deriving DecidableEq, Repr

/-- Why nothing is to be done: the words are wrong, or they only ask for help. -/
inductive Refusal
  | misuse
  | help (topic : Topic)
  deriving DecidableEq, Repr

/-- What has to be there, or the words are wrong. -/
def needed {α : Type} (x : Option α) : Except Refusal α :=
  match x with
  | some a => .ok a
  | none => .error .misuse

/-- The manifest that is read if no other is named. -/
def defaultManifest : Path := ⟨"numweld.toml"⟩

/-- The options that go with every subcommand. -/
structure Shared where
  config : Option Path
  buildRoot : Option Path
  deriving DecidableEq, Repr

/-- No option is given. -/
def Shared.none : Shared := ⟨.none, .none⟩

/-- An option word: its name and the value that is written with it, if any. -/
def splitOption? (word : String) : Option (String × Option String) :=
  match word.toList with
  | '-' :: '-' :: rest =>
    let name := rest.takeWhile (· != '=')
    match rest.drop name.length with
    | [] => some (String.ofList name, .none)
    | _ :: value => some (String.ofList name, some (String.ofList value))
  | _ => .none

/-- Does the word look like an option?  A single dash does not. -/
def looksLikeOption (word : String) : Bool := word.toList.head? = some '-' && word != "-"

/-- The value of an option: the one written with it, or the next word. -/
def optionValue? (written : Option String) (rest : List String) : Option (String × List String) :=
  match written, rest with
  | some v, rest => some (v, rest)
  | .none, v :: rest => if looksLikeOption v then .none else some (v, rest)
  | .none, [] => .none

/-- A path as the value of an option must not be empty. -/
def pathValue? (v : String) : Option Path := if v = "" then .none else some ⟨v⟩

/-- One of the shared options given its value; it must not have one yet. -/
def Shared.set? (s : Shared) (name value : String) : Option Shared :=
  match name, s.config, s.buildRoot with
  | "config", .none, _ => do some { s with config := ← pathValue? value }
  | "build-root", _, .none => do some { s with buildRoot := ← pathValue? value }
  | _, _, _ => .none

/-- Is it the name of a shared option? -/
def isShared (name : String) : Bool := name == "config" || name == "build-root"

/-- Does the word ask for help?  Anything may be joined to the short form. -/
def asksForHelp (word : String) : Bool := word == "--help" || word.toList.take 2 == ['-', 'h']

/-- The options before the subcommand, at most that many; then the subcommand and what follows it.  There are no
options if the last of them has a value that it cannot have. -/
def leading : Nat → Option Shared → List String → Except Refusal (Option Shared × String × List String)
  | 0, _, _ => throw .misuse
  | _ + 1, _, [] => throw .misuse
  | n + 1, s, word :: rest =>
    if looksLikeOption word then do
      let s ← needed s
      if asksForHelp word then throw (.help .program)
      let (name, written) ← needed (splitOption? word)
      if isShared name then
        let (value, rest) ← needed (optionValue? written rest)
        -- A value that is a word of its own is only looked at when the next option is met.
        if written.isSome then leading n (some (← needed (s.set? name value))) rest
        else leading n (s.set? name value) rest
      else throw .misuse
    else return (s, word, rest)

/-- The subcommand of a name, without options. -/
def Verb.ofName? : String → Option Verb
  | "generate" => some .generate
  | "build" => some (.build false)
  | "inspect" => some (.inspect .none)
  | "status" => some .status
  | _ => .none

/-- What help behind a subcommand is about. -/
def Verb.topic : Verb → Topic
  | .generate => .generate
  | .build _ => .build
  | .inspect _ => .inspect
  | .status => .status

/-- What the words behind `help` ask about: the program, or the one subcommand that they name. -/
def Topic.ofWords? : List String → Option Topic
  | [] => some .program
  | [name] => if name = "help" then some .help else (Verb.ofName? name).map Verb.topic
  | _ => .none

/-- An option of the subcommand itself. -/
def Verb.set? (v : Verb) (name : String) (written : Option String) (rest : List String) :
    Option (Verb × List String) :=
  match v, name, written with
  | .build false, "dry-run", .none => some (.build true, rest)
  | .inspect .none, "format", written => do
    let (value, rest) ← optionValue? written rest
    some (.inspect (some (← Metadata.Format.ofName? value)), rest)
  | _, _, _ => .none

/-- The options behind the subcommand, at most that many.  A mark for the end of the options may follow, and
nothing behind it. -/
def trailing : Nat → Shared → Verb → List String → Except Refusal (Shared × Verb)
  | 0, _, _, _ => throw .misuse
  | _ + 1, s, v, [] => return (s, v)
  | n + 1, s, v, word :: rest =>
    if word = "--" then (if rest.isEmpty then return (s, v) else throw .misuse)
    else if asksForHelp word then throw (.help v.topic)
    else do
      let (name, written) ← needed (splitOption? word)
      if isShared name then
        let (value, rest) ← needed (optionValue? written rest)
        trailing n (← needed (s.set? name value)) v rest
      else
        let (v, rest) ← needed (v.set? name written rest)
        trailing n s v rest

/-- What the words ask for. -/
def Request.ofWords (words : List String) : Except Refusal Request := do
  let limit := words.length + 1
  let (outer, name, rest) ← leading limit (some Shared.none) words
  if name = "help" then throw (((Topic.ofWords? rest).map Refusal.help).getD .misuse)
  let verb ← needed (Verb.ofName? name)
  let (inner, verb) ← trailing limit Shared.none verb rest
  let outer ← needed outer
  return ⟨(inner.config.or outer.config).getD defaultManifest, inner.buildRoot.or outer.buildRoot, verb⟩

end BindingPipeline.CommandLine

/-
  The words of a command line.

  Options have long names, some of them a letter too. A value follows its option, after a blank or joined to it;
  letters without values may share one dash. The last of several equal options counts.
-/

namespace ProtoEmit.CommandLine

/-- An option of a command. -/
inductive Switch where
  | program
  | output
  | settingsFile
  | dumpFile
  | nested
  | flat
  | dump
  | references
  | verbose
  | help
deriving DecidableEq, Repr

/-- Whether a word for the value belongs to an option. -/
def Switch.takesValue : Switch → Bool
  | .program => true
  | .output => true
  | .settingsFile => true
  | .dumpFile => true
  | _ => false

/-- The options of a command by their long names and by their letters. -/
structure Grammar where
  long : List (String × Switch)
  short : List (Char × Switch)

/-- The options that a command line has given, in order. -/
abbrev Given := List (Switch × String)

/-- Reads letters behind one dash. A letter with a value takes the rest of the word, or the next word. -/
def letters (g : Grammar) (rest : List String) : List Char → Option (Given × List String)
  | [] => some ([], rest)
  | c :: cs =>
    match g.short.lookup c with
    | none => none
    | some s =>
      if s.takesValue then
        if cs.isEmpty then
          match rest with
          | v :: rest' => some ([(s, v)], rest')
          | [] => none
        else some ([(s, String.ofList cs)], rest)
      else (letters g rest cs).map fun (given, rest) => ((s, "") :: given, rest)

/-- Reads an option with a long name. -/
def longOption (g : Grammar) (word : List Char) (rest : List String) : Option (Given × List String) :=
  let name := String.ofList (word.takeWhile (· != '='))
  let value? := match word.dropWhile (· != '=') with
    | [] => none
    | _ :: v => some (String.ofList v)
  match g.long.lookup name, value?, rest with
  | none, _, _ => none
  | some s, some v, _ => if s.takesValue then some ([(s, v)], rest) else none
  | some s, none, v :: rest' => if s.takesValue then some ([(s, v)], rest') else some ([(s, "")], rest)
  | some s, none, [] => if s.takesValue then none else some ([(s, "")], [])

/-- Reads one option and its value; `word` starts with a dash and is longer than that. -/
def option (g : Grammar) (word : List Char) (rest : List String) : Option (Given × List String) :=
  match word with
  | '-' :: '-' :: _ => longOption g word rest
  | '-' :: cs => letters g rest cs
  | _ => none

/-- Whether a word is an option. -/
def isOption (word : List Char) : Bool :=
  match word with
  | '-' :: _ :: _ => true
  | _ => false

/-- Reads the words of a command. There are no words but options and their values; after a double dash there
    may be none. -/
def options (g : Grammar) (words : List String) : Option Given :=
  match words with
  | [] => some []
  | w :: rest =>
    if w = "--" then if rest.isEmpty then some [] else none
    else if isOption w.toList then
      match option g w.toList rest with
      | none => none
      | some (given, rest') =>
        if rest'.length ≤ rest.length then (options g rest').map (given ++ ·) else none
    else none
termination_by words.length
decreasing_by simp; omega

/-- The value of the last of equal options. -/
def Given.value? (given : Given) (s : Switch) : Option String :=
  given.reverse.lookup s

def Given.has (given : Given) (s : Switch) : Bool :=
  (given.value? s).isSome

/-- The layout that was asked for last. -/
def Given.nested? (given : Given) : Option Bool :=
  (given.reverse.find? fun (s, _) => s == .nested || s == .flat).map fun (s, _) => s == .nested

/-- The options of the command that writes files. -/
def compileGrammar : Grammar where
  long :=
    [("--ir", .program), ("--output", .output), ("--package-structured", .nested), ("--flat", .flat),
      ("--dump", .dump), ("--dump-file", .dumpFile), ("--references", .references), ("--config", .settingsFile),
      ("--verbose", .verbose), ("--help", .help)]
  short := [('i', .program), ('o', .output), ('c', .settingsFile), ('v', .verbose)]

/-- The options of the command that shows paths. -/
def pathsGrammar : Grammar where
  long := [("--ir", .program), ("--package-structured", .nested), ("--flat", .flat), ("--help", .help)]
  short := [('i', .program)]

/-- The options whose values are paths. -/
def pathSwitches : List Switch := [.program, .output, .settingsFile]

/-- Whether the values that stand for paths can be paths: they have no zero character. -/
def Given.hasPaths (given : Given) : Bool :=
  pathSwitches.all fun s => (given.value? s).all fun v => !v.contains '\x00'

/-- What a command line asks for. -/
inductive Command where
  | compile (program : String) (given : Given)
  | paths (program : String) (nested : Bool)
  | help
deriving Repr

/-- The command of a command line, `none` for one that is not understood. -/
def Command.ofWords? (words : List String) : Option Command :=
  match words with
  | "--" :: rest => ofCommandWords? rest
  | "--help" :: _ => some .help
  | _ => ofCommandWords? words
where
  /-- The command of words that start with its name. -/
  ofCommandWords? : List String → Option Command
    | "compile" :: rest => do
      let given ← options compileGrammar rest
      if given.has .help then some .help
      else if !given.hasPaths then none
      else some (.compile (← given.value? .program) given)
    | "paths" :: rest => do
      let given ← options pathsGrammar rest
      if given.has .help then some .help
      else if !given.hasPaths then none
      else some (.paths (← given.value? .program) (given.nested?.getD false))
    | _ => none

end ProtoEmit.CommandLine

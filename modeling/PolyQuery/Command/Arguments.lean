namespace PolyQuery

/-!
# Command line

The commands and options of the program and how they are read from the words of
a command line. Options may stand before and after the words of a command; a
value may follow its option as the next word, after an equals sign or, for a
short option, directly. After a lone `--` no word is an option.

Words are read from the first to the last, and the first fault or request for
help decides: what stands behind it is not looked at. A value that is a word of
its own is looked at once the next option of its level is read, or else at the
very end. So a request for help that stands behind a command word is answered
even if the value right in front of that word is at fault.
-/

/-- What the program is asked to do. -/
inductive Command where
  /-- Write the SQL of a request, and perhaps of its count. -/
  | sql (schema : String) (request : String) (dialect : Option String)
    (count : Bool)
  /-- Write the document operation of a request. -/
  | document (schema : String) (request : String)
  /-- Write the settings in force. -/
  | showConfig
  /-- Write a settings file with the defaults. -/
  | initConfig (force : Bool)
  deriving DecidableEq, Repr

/-- A command with the options that go with every command. -/
structure Arguments where
  project : Option String
  json : Bool
  command : Command
  deriving DecidableEq, Repr

namespace Arguments

/-- An option. -/
inductive Switch where
  | project
  | format
  | dialect
  | count
  | force
  deriving DecidableEq, Repr

namespace Switch

/-- Whether an option has a value. -/
def takesValue : Switch → Bool
  | .project => true
  | .format => true
  | .dialect => true
  | .count => false
  | .force => false

/-- Whether an option goes with every command. -/
def isGlobal : Switch → Bool
  | .project => true
  | .format => true
  | _ => false

/-- The option with a long name. -/
def ofLong? : String → Option Switch
  | "project" => some .project
  | "format" => some .format
  | "dialect" => some .dialect
  | "count" => some .count
  | "force" => some .force
  | _ => none

/-- The option with a letter. -/
def ofLetter? : Char → Option Switch
  | 'p' => some .project
  | 'f' => some .format
  | 'd' => some .dialect
  | _ => none

/--
Whether an option may have a value: a path has characters, a
format a known name.
-/
def admits
    (switch : Switch)
    (value : String) :
    Bool :=
  match switch with
  | .project => !value.isEmpty
  | .format => value == "text" || value == "json"
  | _ => true

end Switch

/--
Where in the command line a word stands: before the command, or among a
command's own words.
-/
inductive Level where
  | top
  | sql
  | document
  | config
  | configShow
  | configInit
  | help
  | configHelp
  deriving DecidableEq, Repr

/-- Whether an option is known at a level. -/
def Level.knows
    (level : Level)
    (switch : Switch) :
    Bool :=
  switch.isGlobal ||
    match level, switch with
    | .sql, .dialect => true
    | .sql, .count => true
    | .configInit, .force => true
    | _, _ => false

/-- The level that a command word leads to. -/
def Level.enter? : Level → String → Option Level
  | .top, "sql" => some .sql
  | .top, "doc" => some .document
  | .top, "config" => some .config
  | .top, "help" => some .help
  | .config, "show" => some .configShow
  | .config, "init" => some .configInit
  | .config, "help" => some .configHelp
  | _, _ => none

/-- Whether command words are expected at a level. -/
def Level.isOpen : Level → Bool
  | .top => true
  | .config => true
  | _ => false

/-- How many words besides options a level takes. -/
def Level.wordCount : Level → Nat
  | .sql => 2
  | .document => 2
  | _ => 0

/-- Why the words of a command line give no command to run. -/
inductive Stop where
  /-- The words make no sense. -/
  | misused
  /-- Help is asked for at a level. -/
  | help (level : Level)
  /-- The version is asked for. -/
  | version
  deriving DecidableEq, Repr

/--
What has been read: the level, its words and the options by the
level they stand at.
-/
structure Progress where
  level : Level := .top
  words : List String := []
  switches : List (Level × Switch × String) := []

/-- Add an option that is known at the level. -/
def Progress.addSwitch
    (progress : Progress)
    (switch : Switch)
    (value : String) :
    Except Stop Progress :=
  if progress.level.knows switch then
    .ok { progress with
      switches := progress.switches ++ [(progress.level, switch, value)] }
  else
    .error .misused

/--
Whether the options at a level have values that they admit and are not repeated.
-/
def Progress.isSound
    (progress : Progress)
    (level : Level) :
    Bool :=
  let given := progress.switches.filter fun given => given.1 = level
  (given.all fun given => given.2.1.admits given.2.2) &&
    decide (given.map fun given => given.2.1).Nodup

/--
Refuse the options that were given at the level so far if they are not sound.
-/
def Progress.settle
    (progress : Progress) :
    Except Stop Progress :=
  if progress.isSound progress.level then .ok progress else .error .misused

/-- Refuse the options that were given at any level if they are not sound. -/
def Progress.finish
    (progress : Progress) :
    Except Stop Progress :=
  if progress.switches.all fun given => progress.isSound given.1 then
    .ok progress
  else
    .error .misused

/-- Add a word of a command that takes words. -/
def Progress.addWord
    (progress : Progress)
    (word : String) :
    Except Stop Progress :=
  if progress.words.length < progress.level.wordCount && !word.isEmpty then
    .ok { progress with words := progress.words ++ [word] }
  else
    .error .misused

/-- Add a word that may name a command. -/
def Progress.enter
    (progress : Progress)
    (word : String) :
    Except Stop Progress :=
  if progress.level.isOpen then
    match progress.level.enter? word with
    | some level => .ok { progress with level := level }
    | none => .error .misused
  else
    progress.addWord word

/-- The answer to a request for help on the command that words lead to. -/
def helpOn
    (level : Level)
    (words : List String) :
    Stop :=
  match words.foldlM (fun level word => Level.enter? level word) level with
  | some level => .help level
  | none => .misused

/-- A long option with its value, if one stands after an equals sign. -/
def longParts
    (characters : List Char) :
    String × Option String :=
  let name :=
    String.ofList (characters.takeWhile fun character => character != '=')
  match characters.dropWhile fun character => character != '=' with
  | [] => (name, none)
  | _ :: value => (name, some (String.ofList value))

/-- The value of a short option that stands directly after its letter. -/
def attachedValue? : List Char → Option String
  | [] => none
  | '=' :: value => some (String.ofList value)
  | value => some (String.ofList value)

/-- Whether a word looks like an option, so that it cannot be a value. -/
def looksLikeOption
    (word : String) :
    Bool :=
  match word.toList with
  | '-' :: _ :: _ => true
  | _ => false

/-- What one word of a command line is. -/
inductive Reading where
  /-- The mark after which no word is an option. -/
  | endOfOptions
  | help
  | version
  /-- An option with the value that is part of its word. -/
  | option (switch : Switch) (attached : Option String)
  | word (word : String)
  | unknown

/-- What a word is. -/
def Reading.ofWord
    (word : String) :
    Reading :=
  match word.toList with
  | ['-', '-'] => .endOfOptions
  | '-' :: '-' :: characters =>
      match longParts characters with
      | ("help", none) => .help
      | ("version", none) => .version
      | (name, attached) =>
          match Switch.ofLong? name with
          | some switch => .option switch attached
          | none => .unknown
  | '-' :: 'h' :: _ => .help
  | '-' :: 'V' :: _ => .version
  | '-' :: letter :: rest =>
      match Switch.ofLetter? letter with
      | some switch => .option switch (attachedValue? rest)
      | none => .unknown
  | _ => .word word

/-- Read the words of a command line one after the other. -/
def readWords :
    Bool →
    Progress →
    List String →
    Except Stop Progress
  | _, progress, [] => .ok progress
  | false, progress, word :: rest => do
      let progress ← progress.addWord word
      readWords false progress rest
  | true, progress, word :: rest =>
      match Reading.ofWord word with
      | .unknown => .error .misused
      | .help => do
          let progress ← progress.settle
          throw (.help progress.level)
      | .version => do
          let progress ← progress.settle
          throw (if progress.level = .top then .version else .misused)
      | .endOfOptions => readWords false progress rest
      | .word word =>
          if progress.level.isOpen && word == "help" then
            .error (helpOn progress.level rest)
          else do
            let progress ← progress.enter word
            readWords true progress rest
      | .option switch attached =>
          match switch.takesValue, attached, rest with
          | false, none, rest => do
              let progress ← (← progress.addSwitch switch "").settle
              readWords true progress rest
          | false, some _, _ => .error .misused
          | true, some value, rest => do
              let progress ← (← progress.addSwitch switch value).settle
              readWords true progress rest
          | true, none, [] => .error .misused
          | true, none, value :: rest =>
              if looksLikeOption value then
                .error .misused
              else do
                let progress ← (← progress.settle).addSwitch switch value
                readWords true progress rest

/--
The value of an option; the one given closest to the end of the command counts.
-/
def Progress.value?
    (progress : Progress)
    (switch : Switch) :
    Option String :=
  (progress.switches.reverse.find? fun given => given.2.1 = switch).map
    fun given => given.2.2

/-- The command that was read, if it is complete. -/
def Progress.command?
    (progress : Progress) :
    Option Command :=
  match progress.level, progress.words with
  | .sql, [schema, request] =>
      some (.sql schema request (progress.value? .dialect)
        (progress.value? .count).isSome)
  | .document, [schema, request] => some (.document schema request)
  | .configShow, [] => some .showConfig
  | .configInit, [] => some (.initConfig (progress.value? .force).isSome)
  | _, _ => none

/-- The arguments that the words of a command line give. -/
def ofWords
    (words : List String) :
    Except Stop Arguments := do
  let progress ← (← readWords true {} words).finish
  match progress.command? with
  | none => .error .misused
  | some command =>
      return {
        project := progress.value? .project
        json := progress.value? .format = some "json"
        command := command
      }

end Arguments

end PolyQuery

/-!
# Options on a command line

A command line is a list of words. An option is a word that begins with a dash: `--name` or, if it
has one, a letter `-n`. It may take a value, which is the rest of its word (`--name=value`,
`-nvalue`) or the next word, whatever that is. Letters of options without values may share a word.
The word `--` ends the options; all other words are arguments. A command may require its options to
stand before its arguments.
-/

namespace EventLedger.CommandLine

/-- An option that a command knows. -/
structure Known where
  /-- The name with its dashes. -/
  name : String
  letter : Option Char := none
  takesValue : Bool := true

/-- What is wrong with a command line. -/
inductive UsageError where
  | unknownOption (option : String)
  | missingValue (option : String)
  | unexpectedValue (option : String)
  | missingCommand
  | unknownCommand (name : String)
  | missingArgument (name : String)
  | unexpectedArgument (word : String)
  /-- A value that is no whole number. -/
  | notANumber (word : String)
  /-- An argument that is no finite decimal. -/
  | notAnAmount (word : String)
deriving DecidableEq

/-- The wording of a usage error. -/
def UsageError.message : UsageError → String
  | .unknownOption option => "no such option: " ++ option
  | .missingValue option => "option requires a value: " ++ option
  | .unexpectedValue option => "option takes no value: " ++ option
  | .missingCommand => "missing command"
  | .unknownCommand name => "no such command: " ++ name
  | .missingArgument name => "missing argument: " ++ name
  | .unexpectedArgument word => "unexpected argument: " ++ word
  | .notANumber word => "not a whole number: " ++ word
  | .notAnAmount word => "not a finite amount: " ++ word

/-- An option as it was given. -/
structure Setting where
  name : String
  value : Option String := none
deriving DecidableEq

/-- A command line in its parts. -/
structure Words where
  settings : List Setting := []
  arguments : List String := []
deriving DecidableEq

namespace Words

/-- Whether an option was given. -/
def has (ws : Words) (name : String) : Bool :=
  ws.settings.any (·.name == name)

/-- The value that was given last for an option. -/
def value? (ws : Words) (name : String) : Option String :=
  (ws.settings.reverse.find? (·.name == name)).bind (·.value)

/-- Words with one more setting in front. -/
def cons (setting : Setting) (ws : Words) : Words :=
  { ws with settings := setting :: ws.settings }

/-- Words with one more argument in front. -/
def consArgument (word : String) (ws : Words) : Words :=
  { ws with arguments := word :: ws.arguments }

end Words

/-- What an option word says by itself: its settings, and the option that takes the next word as its
value. -/
structure OptionWord where
  settings : List Setting := []
  waiting : Option String := none
deriving DecidableEq

/-- An option that takes a value: the value is at hand, or it is the next word. -/
def withValue (name : String) : Option String → OptionWord
  | some value => { settings := [⟨name, some value⟩] }
  | none => { waiting := some name }

/-- Reads letters of options behind a dash. -/
def readLetters (known : List Known) : List Char → Except UsageError OptionWord
  | [] => .ok {}
  | c :: cs =>
    match known.find? (·.letter == some c) with
    | none => .error (.unknownOption (String.ofList ['-', c]))
    | some option =>
      if option.takesValue then
        .ok (withValue option.name (if cs.isEmpty then none else some (String.ofList cs)))
      else do
        let word ← readLetters known cs
        return { word with settings := ⟨option.name, none⟩ :: word.settings }

/-- The part of a word before the first equals sign, and the part behind it if there is one. -/
def splitValue (word : List Char) : String × Option String :=
  (String.ofList (word.takeWhile (· != '=')),
    match word.dropWhile (· != '=') with
    | [] => none
    | _ :: value => some (String.ofList value))

/-- Reads an option word. -/
def readOption (known : List Known) (word : List Char) : Except UsageError OptionWord :=
  let (name, value) := splitValue word
  match known.find? (·.name == name) with
  | some option =>
    if option.takesValue then .ok (withValue name value)
    else if value.isSome then .error (.unexpectedValue name)
    else .ok { settings := [⟨name, none⟩] }
  | none =>
    match word with
    | '-' :: '-' :: _ => .error (.unknownOption name)
    | _ => readLetters known (word.drop 1)

/-- Whether a word is an option: a dash with something behind it. -/
def isOption : List Char → Bool
  | '-' :: _ :: _ => true
  | _ => false

/-- Reads a command line. If options and arguments are not `mixed`, the first argument ends the
options. -/
def readWords (known : List Known) (mixed : Bool) : List String → Except UsageError Words
  | [] => .ok {}
  | word :: words =>
    if word == "--" then .ok { arguments := words }
    else if isOption word.toList then
      match readOption known word.toList with
      | .error error => .error error
      | .ok option =>
        match option.waiting, words with
        | none, words => do return option.settings.foldr Words.cons (← readWords known mixed words)
        | some name, value :: words => do
          let rest ← readWords known mixed words
          return option.settings.foldr Words.cons (rest.cons ⟨name, some value⟩)
        | some name, [] => .error (.missingValue name)
    else if mixed then do return (← readWords known mixed words).consArgument word
    else .ok { arguments := word :: words }

/-- Behind two dashes, all words are arguments. -/
theorem readWords_dashes (known : List Known) (mixed : Bool) (words : List String) :
    readWords known mixed ("--" :: words) = .ok { arguments := words } := by
  rw [readWords]
  rfl

/-- A name ends the options in front of arguments. -/
theorem readWords_name {name : String} (ends : name ≠ "--")
    (plain : isOption name.toList = false) (known : List Known) (words : List String) :
    readWords known false (name :: words) = .ok { arguments := name :: words } := by
  simp [readWords, ends, plain]

end EventLedger.CommandLine

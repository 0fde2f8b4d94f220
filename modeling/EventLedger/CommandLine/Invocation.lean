import EventLedger.Account.Model
import EventLedger.CommandLine.Options
import EventLedger.Text.Integer

/-!
# Commands of the command line

`Invocation.ofWords` reads what a run is to do:

    [--log-level LEVEL] [--log-format FORMAT] COMMAND

where `COMMAND` is one of

    account create|balance|close ACCOUNT [--log PATH] [--json]
    account deposit|withdraw ACCOUNT AMOUNT [--log PATH] [--json]
    replay ACCOUNT [--log PATH] [--until SEQ] [--json]
    log tail [--log PATH] [--lines COUNT] [--json]
    log verify [--log PATH] [--json]
    version

Every command also takes `--help`, which wins over all that is missing behind it.
-/

namespace EventLedger.CommandLine

open Account (Operation)

/-- What a run is to do. -/
inductive Task where
  /-- Gives a command to an account. -/
  | submit (account : String) (operation : Operation)
  /-- Shows the state of an account, up to a sequence number if one is given. -/
  | replay (account : String) (upTo : Option Int)
  /-- Shows the last records of the log. -/
  | tail (lines : Option Int)
  /-- Checks the hash chain of the log. -/
  | verify
  | version
  | help
deriving DecidableEq

/-- A run as it was asked for. -/
structure Invocation where
  task : Task
  /-- The path of the log, if it is not the configured one. -/
  logPath : Option String := none
  /-- The answer is a document. -/
  asJson : Bool := false
  logLevel : Option String := none
  logFormat : Option String := none
deriving DecidableEq

namespace Invocation

def helpOption : Known := { name := "--help", takesValue := false }
def jsonOption : Known := { name := "--json", takesValue := false }
def logOption : Known := { name := "--log", letter := some 'l' }
def untilOption : Known := { name := "--until", letter := some 'u' }
def linesOption : Known := { name := "--lines", letter := some 'n' }
def logLevelOption : Known := { name := "--log-level" }
def logFormatOption : Known := { name := "--log-format" }

/-- The command at the front of arguments, and the words behind it. -/
def commandOf : List String → Except UsageError (String × List String)
  | [] => .error .missingCommand
  | name :: words => .ok (name, words)

/-- No arguments. -/
def noArguments : List String → Except UsageError Unit
  | [] => .ok ()
  | word :: _ => .error (.unexpectedArgument word)

/-- The value of an option for whole numbers. -/
def integerOf (ws : Words) (option : Known) : Except UsageError (Option Int) :=
  match ws.value? option.name with
  | none => .ok none
  | some word =>
    match Text.integer? word with
    | some i => .ok (some i)
    | none => .error (.notANumber word)

/-- The amount that an argument denotes. -/
def amountOf (word : String) : Except UsageError Decimal :=
  match Decimal.parse word with
  | .ok amount => if amount.isFinite then .ok amount else .error (.notAnAmount word)
  | .error _ => .error (.notAnAmount word)

/-- The one argument of a command that is about an account. -/
def accountOnly : List String → Except UsageError String
  | [account] => .ok account
  | [] => .error (.missingArgument "ACCOUNT")
  | _ :: word :: _ => .error (.unexpectedArgument word)

/-- The two arguments of a command that moves an amount. -/
def accountAndAmount : List String → Except UsageError (String × Decimal)
  | [account, amount] => return (account, ← amountOf amount)
  | [] => .error (.missingArgument "ACCOUNT")
  | [_] => .error (.missingArgument "AMOUNT")
  | _ :: _ :: word :: _ => .error (.unexpectedArgument word)

/-! ## Commands -/

/-- An invocation for the log, with what all such commands have in common. -/
def onLog (ws : Words) (task : Task) : Invocation where
  task := task
  logPath := ws.value? logOption.name
  asJson := ws.has jsonOption.name

/-- Reads the words of a command that has no commands of its own. -/
def leaf (known : List Known) (words : List String)
    (read : Words → Except UsageError Invocation) : Except UsageError Invocation := do
  let ws ← readWords (helpOption :: known) true words
  if ws.has helpOption.name then return { task := .help }
  read ws

theorem leaf_dashes (known : List Known) (words : List String)
    (read : Words → Except UsageError Invocation) :
    leaf known ("--" :: words) read = read { arguments := words } := by
  rw [leaf, readWords_dashes]
  rfl

/-- Reads the words of a command that has commands of its own. -/
def group (known : List Known) (words : List String)
    (read : Words → String → List String → Except UsageError Invocation) :
    Except UsageError Invocation := do
  let ws ← readWords (helpOption :: known) false words
  if ws.has helpOption.name then return { task := .help }
  let (name, words) ← commandOf ws.arguments
  read ws name words

theorem group_name {name : String} (ends : name ≠ "--") (plain : isOption name.toList = false)
    (known : List Known) (words : List String)
    (read : Words → String → List String → Except UsageError Invocation) :
    group known (name :: words) read = read { arguments := name :: words } name words := by
  rw [group, readWords_name ends plain]
  rfl

/-- Reads an operation on an account. -/
def account (words : List String) : Except UsageError Invocation :=
  group [] words fun _ name words =>
    let command := leaf [logOption, jsonOption] words
    let plain (operation : Operation) := command fun ws => do
      return onLog ws (.submit (← accountOnly ws.arguments) operation)
    let moving (operation : Decimal → Operation) := command fun ws => do
      let (account, amount) ← accountAndAmount ws.arguments
      return onLog ws (.submit account (operation amount))
    match name with
    | "create" => plain .create
    | "deposit" => moving .deposit
    | "withdraw" => moving .withdraw
    | "balance" => plain .getBalance
    | "close" => plain .close
    | name => .error (.unknownCommand name)

/-- Reads a replay. -/
def replay (words : List String) : Except UsageError Invocation :=
  leaf [logOption, untilOption, jsonOption] words fun ws => do
    let account ← accountOnly ws.arguments
    return onLog ws (.replay account (← integerOf ws untilOption))

/-- Reads a look at the log. -/
def log (words : List String) : Except UsageError Invocation :=
  group [] words fun _ name words =>
    match name with
    | "tail" =>
      leaf [logOption, linesOption, jsonOption] words fun ws => do
        noArguments ws.arguments
        return onLog ws (.tail (← integerOf ws linesOption))
    | "verify" =>
      leaf [logOption, jsonOption] words fun ws => do
        noArguments ws.arguments
        return onLog ws .verify
    | name => .error (.unknownCommand name)

/-- Reads the words of a run. -/
def ofWords (words : List String) : Except UsageError Invocation :=
  group [logLevelOption, logFormatOption] words fun ws name words => do
    let invocation ← match name with
      | "account" => account words
      | "replay" => replay words
      | "log" => log words
      | "version" => leaf [] words fun ws => do
        noArguments ws.arguments
        return { task := .version }
      | name => .error (.unknownCommand name)
    return { invocation with
      logLevel := ws.value? logLevelOption.name
      logFormat := ws.value? logFormatOption.name }

/-- Whatever an account is called and an amount looks like, they can be given behind two dashes. -/
theorem task_of_account (account amount : String) :
    let task words := (ofWords words).map Invocation.task
    let moving (operation : Decimal → Operation) : Except UsageError Task :=
      (amountOf amount).map fun value => .submit account (operation value)
    task ["account", "create", "--", account] = .ok (.submit account .create) ∧
    task ["account", "close", "--", account] = .ok (.submit account .close) ∧
    task ["account", "balance", "--", account] = .ok (.submit account .getBalance) ∧
    task ["account", "deposit", "--", account, amount] = moving .deposit ∧
    task ["account", "withdraw", "--", account, amount] = moving .withdraw := by
  have words : ∀ name arguments, name ≠ "--" → isOption name.toList = false →
      (ofWords ("account" :: name :: "--" :: arguments)).map Invocation.task =
        (Invocation.account (name :: "--" :: arguments)).map Invocation.task := by
    intro name arguments ends plain
    rw [ofWords, group_name (by decide) rfl]
    show Except.map _ (Except.bind (Invocation.account _) _) = _
    cases Invocation.account (name :: "--" :: arguments) <;> rfl
  intro task moving
  refine ⟨?_, ?_, ?_, ?_, ?_⟩
  all_goals
    refine (words _ _ (by decide) rfl).trans ?_
    rw [Invocation.account, group_name (by decide) rfl]
    simp only [leaf_dashes]
  · rfl
  · rfl
  · rfl
  all_goals
    rw [accountAndAmount]
    show _ = Except.map _ _
    cases amountOf amount <;> rfl

end Invocation

end EventLedger.CommandLine

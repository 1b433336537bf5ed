import AddonUpkeep.Text.DecimalDigit
import AddonUpkeep.Text.Pieces
import AddonUpkeep.Text.Quoted

/-!
# Switches of the command line

A switch goes by a short name, a long name or both.  A long name can be cut as long as only one name
starts with what is left, and its value can stand behind an equals sign.  The value of a short name
can stand directly behind it, and short names without a value can be joined.
-/

namespace AddonUpkeep.Cli

open AddonUpkeep.Text

/-- The switches. -/
inductive Switch where
  | help
  | version
  | verbose
  | kubeconfig
  | context
  | config
  | controlPlaneVersion
  | addons
  | approve
  deriving DecidableEq, Repr

namespace Switch

/-- The names of a switch, the short one first. -/
def names : Switch → List (List Char)
  | help => [['-', 'h'], "--help".toList]
  | version => ["--version".toList]
  | verbose => [['-', 'v'], "--verbose".toList]
  | kubeconfig => ["--kubeconfig".toList]
  | context => ["--context".toList]
  | config => ["--config".toList]
  | controlPlaneVersion => [['-', 'k'], "--control-plane-version".toList]
  | addons => ["--addons".toList]
  | approve => ["--approve".toList]

/-- A switch that needs a value. -/
def takesValue : Switch → Bool
  | kubeconfig | context | config | controlPlaneVersion | addons => true
  | help | version | verbose | approve => false

/-- All names of a switch, as messages show them. -/
def label (switch : Switch) : String := String.ofList (joinPieces ['/'] switch.names)

end Switch

/-- The commands. -/
inductive Command where
  | check
  | update
  deriving DecidableEq, Repr

namespace Command

/-- The name of a command. -/
def name : Command → String
  | check => "check"
  | update => "update"

/-- All commands. -/
def all : List Command := [check, update]

/-- The command of a name. -/
def ofName? (name : String) : Option Command := all.find? (·.name == name)

/-- The switches behind a command. -/
def switches : Command → List Switch
  | check => [.help, .controlPlaneVersion, .addons]
  | update => [.help, .controlPlaneVersion, .addons, .approve]

end Command

/-- The switches in front of the command. -/
def commonSwitches : List Switch :=
  [.help, .kubeconfig, .context, .config, .verbose, .version]

/-- What is wrong with a command line. -/
inductive UsageProblem where
  | ambiguous (given : String) (names : List String)
  | valueMissing (switch : Switch)
  | valueIgnored (switch : Switch) (given : String)
  | unknownCommand (given : String)
  | commandMissing
  | switchMissing (switch : Switch)
  | unrecognized (words : List String)
  deriving DecidableEq, Repr

/-- The wording of a problem. -/
def UsageProblem.message : UsageProblem → String
  | ambiguous given names =>
    let names := join ", " names
    s!"ambiguous option: {given} could match {names}"
  | valueMissing switch => s!"argument {switch.label}: expected one argument"
  | valueIgnored switch given =>
    let given := quoted given
    s!"argument {switch.label}: ignored explicit argument {given}"
  | unknownCommand given =>
    let given := quoted given
    let names := join ", " (Command.all.map fun command ↦ quoted command.name)
    s!"argument command: invalid choice: {given} (choose from {names})"
  | commandMissing => "the following arguments are required: command"
  | switchMissing switch => s!"the following arguments are required: {switch.label}"
  | unrecognized words =>
    let words := join " " words
    s!"unrecognized arguments: {words}"

/-- What a word of the command line is: plain text, the dashes behind which all words are plain, a
switch under a name with the value that stands in the same word, or a switch that is not known. -/
inductive WordKind where
  | plain
  | dashes
  | known (switch : Switch) (name : List Char) (value : Option (List Char))
  | unknown
  deriving DecidableEq, Repr

namespace WordKind

/-- A text up to its first equals sign, and what follows it. -/
def cutValue (text : List Char) : List Char × Option (List Char) :=
  match text.dropWhile (· != '=') with
  | [] => (text, none)
  | _ :: value => (text.takeWhile (· != '='), some value)

/-- The switch with exactly a name. -/
def named? (switches : List Switch) (name : List Char) : Option Switch :=
  switches.find? (·.names.contains name)

/-- The switches and names that start with a text. -/
def startingWith (switches : List Switch) (text : List Char) : List (Switch × List Char) :=
  switches.flatMap fun switch ↦
    (switch.names.filter fun name ↦ (dropStart? text name).isSome).map (switch, ·)

/-- A decimal digit of any script. -/
def isDigit (c : Char) : Bool := (digitValue? c).isSome

/-- A number with a minus sign in front, which is no switch.  One line feed may follow it. -/
def isNegativeNumber (text : List Char) : Bool :=
  let text := if text.getLast? = some '\n' then text.dropLast else text
  match text with
  | '-' :: unsigned =>
    match unsigned.dropWhile isDigit with
    | [] => !unsigned.isEmpty
    | '.' :: fraction => !fraction.isEmpty && fraction.all isDigit
    | _ => false
  | _ => false

/-- A word that starts with a dash and is no name of a switch. -/
def ofDashed (switches : List Switch) (text : List Char) : Except UsageProblem WordKind :=
  let (name, value) := cutValue text
  match if value.isSome then named? switches name else none with
  | some switch => .ok (.known switch name value)
  | none =>
    let found : List WordKind := if (dropStart? ['-', '-'] text).isSome then
        (startingWith switches name).map fun (switch, name) ↦ .known switch name value
      else
        ((named? switches (text.take 2)).map fun switch ↦
          .known switch (text.take 2) (some (text.drop 2))).toList
    match found with
    | [] => .ok (if isNegativeNumber text || text.contains ' ' then .plain else .unknown)
    | [one] => .ok one
    | _ => .error (.ambiguous (String.ofList text)
        ((startingWith switches name).map fun found ↦ String.ofList found.2))

/-- The kind of a word in front of the dashes. -/
def ofText (switches : List Switch) (text : List Char) : Except UsageProblem WordKind :=
  match text with
  | '-' :: rest =>
    match named? switches text with
    | some switch => .ok (.known switch text none)
    | none => if rest.isEmpty then .ok .plain else ofDashed switches text
  | _ => .ok .plain

end WordKind

/-- The kinds of the words of a command line. -/
def classify (switches : List Switch) :
    List String → Except UsageProblem (List (WordKind × String))
  | [] => .ok []
  | word :: words =>
    if word = "--" then .ok ((.dashes, word) :: words.map (.plain, ·))
    else do
      let kind ← WordKind.ofText switches word.toList
      return (kind, word) :: (← classify switches words)

end AddonUpkeep.Cli

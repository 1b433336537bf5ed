import AddonUpkeep.Cli.Switch

/-!
# Arguments

What a command line asks for: switches, a command, and switches of the command.  Every word in front
of the command is read before any switch takes effect, and so is every word behind it.
-/

namespace AddonUpkeep.Cli

/-- The value of a switch.  Two dashes in the same word leave it empty. -/
inductive Value where
  | text (content : String)
  | empty
  deriving DecidableEq, Repr

namespace Value

/-- The value that stands in the word of its switch. -/
def ofChars (text : List Char) : Value :=
  if text = ['-', '-'] then empty else .text (String.ofList text)

/-- The text of a value that is not empty. -/
def text? : Value → Option String
  | text content => some content
  | empty => none

end Value

/-- Why a command line asks for no command. -/
inductive Stop where
  | usage (problem : UsageProblem)
  | help
  | version
  deriving DecidableEq, Repr

/-- What is printed when the version is asked for. -/
def versionText : String := "eks-addons 0.1.0\n"

/-- The arguments of a command line. -/
structure Arguments where
  kubeconfig : Option Value := none
  context : Option Value := none
  addonsFile : Option Value := none
  verbose : Bool := false
  controlPlaneVersion : Option Value := none
  addons : Value := .text "kube-proxy"
  approve : Bool := false
  deriving DecidableEq, Repr

/-- The arguments with one more switch. -/
def Arguments.add (arguments : Arguments) : Switch × Value → Except Stop Arguments
  | (.help, _) => .error .help
  | (.version, _) => .error .version
  | (.verbose, _) => .ok { arguments with verbose := true }
  | (.approve, _) => .ok { arguments with approve := true }
  | (.kubeconfig, value) => .ok { arguments with kubeconfig := some value }
  | (.context, value) => .ok { arguments with context := some value }
  | (.config, value) => .ok { arguments with addonsFile := some value }
  | (.controlPlaneVersion, value) => .ok { arguments with controlPlaneVersion := some value }
  | (.addons, value) => .ok { arguments with addons := value }

/-- The switches in one word: those that are complete, and one that needs the next word. -/
structure SwitchWord where
  complete : List (Switch × Value) := []
  unfinished : Option Switch := none

namespace SwitchWord

/-- One more switch in front of the others. -/
def cons (switch : Switch) (word : SwitchWord) : SwitchWord :=
  { word with complete := (switch, .empty) :: word.complete }

/-- A switch at the end of its word. -/
def last (switch : Switch) : SwitchWord :=
  if switch.takesValue then { unfinished := some switch }
  else { complete := [(switch, .empty)] }

/-- A short name with characters behind it, which are its value or more short names. -/
def joined (switches : List Switch) : List Char → Switch → Except UsageProblem SwitchWord
  | [], switch => .ok (last switch)
  | c :: rest, switch =>
    if switch.takesValue then .ok { complete := [(switch, .ofChars (c :: rest))] }
    else match WordKind.named? switches ['-', c] with
      | some next => (joined switches rest next).map (cons switch)
      | none => .error (.valueIgnored switch (String.ofList (c :: rest)))

/-- The switches in the word of a switch. -/
def read (switches : List Switch) (switch : Switch) (name : List Char) :
    Option (List Char) → Except UsageProblem SwitchWord
  | none => .ok (last switch)
  | some value =>
    if switch.takesValue then .ok { complete := [(switch, .ofChars value)] }
    else if name.length = 2 ∧ !value.isEmpty then joined switches value switch
    else .error (.valueIgnored switch (String.ofList value))

end SwitchWord

/-- What words ask for: their switches, the words that nothing is made of, and the words from the
first plain one on when reading ends there. -/
structure Walk where
  arguments : Arguments := {}
  leftOver : List String := []
  behind : List String := []

/-- Read words.  Plain words end the reading, or else are left over. -/
def walk (switches : List Switch) (endsAtPlain : Bool) :
    List (WordKind × String) → Walk → Except Stop Walk
  | [], state => .ok state
  | (.unknown, word) :: rest, state =>
    walk switches endsAtPlain rest { state with leftOver := state.leftOver ++ [word] }
  | (.dashes, word) :: rest, state =>
    if endsAtPlain && !rest.isEmpty then
      .ok { state with behind := word :: rest.map (·.2) }
    else walk switches endsAtPlain rest { state with leftOver := state.leftOver ++ [word] }
  | (.plain, word) :: rest, state =>
    if endsAtPlain then .ok { state with behind := word :: rest.map (·.2) }
    else walk switches endsAtPlain rest { state with leftOver := state.leftOver ++ [word] }
  | (.known switch name value, _) :: rest, state =>
    match SwitchWord.read switches switch name value with
    | .error problem => .error (.usage problem)
    | .ok read =>
      match read.unfinished, rest with
      | none, rest => do
        let arguments ← read.complete.foldlM Arguments.add state.arguments
        walk switches endsAtPlain rest { state with arguments }
      | some switch, (.plain, word) :: rest => do
        let arguments ← (read.complete ++ [(switch, Value.text word)]).foldlM Arguments.add
          state.arguments
        walk switches endsAtPlain rest { state with arguments }
      | some switch, _ => .error (.usage (.valueMissing switch))

/-- Read the words behind a command, given what was read in front of it. -/
def readBehind (command : Command) (words : List String) (front : Walk) :
    Except Stop Arguments := do
  let words ← (classify command.switches words).mapError .usage
  let state ← walk command.switches false words { front with behind := [] }
  if state.arguments.controlPlaneVersion.isNone then
    .error (.usage (.switchMissing .controlPlaneVersion))
  else if !state.leftOver.isEmpty then .error (.usage (.unrecognized state.leftOver))
  else return state.arguments

/-- The command and the arguments of a command line. -/
def parse (words : List String) : Except Stop (Command × Arguments) := do
  let words ← (classify commonSwitches words).mapError .usage
  let front ← walk commonSwitches true words {}
  match front.behind with
  | [] => .error (.usage .commandMissing)
  | name :: rest => match Command.ofName? name with
    | none => .error (.usage (.unknownCommand name))
    | some command => return (command, ← readBehind command rest front)

end AddonUpkeep.Cli

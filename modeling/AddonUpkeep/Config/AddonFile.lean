import AddonUpkeep.Config.FileTree
import AddonUpkeep.Text.Lowercase
import AddonUpkeep.Yaml.Document

/-!
# The file of addon settings

A YAML mapping of addon names to mappings of settings.  Names count without case and without blanks
around them, and of several entries with one name the last one holds.  An integer of more digits
than are written can be no name.
-/

namespace AddonUpkeep

open AddonUpkeep.Text

/-- The settings of addons by name; none for an addon that is listed without settings. -/
abbrev AddonSettings := Table String (Option Settings)

namespace AddonFile

/-- The name under which an entry counts. -/
def nameOf (key : Setting) : String := trim (lower key.text)

/-- The settings of an entry, which may be left out, or be the whole document again. -/
def settingsOf? (whole : Settings) : Setting → Option Settings
  | .null => some []
  | .map entries => some entries
  | .enclosing .map => some whole
  | _ => none

/-- Store the settings of entries one after the other. -/
def addEntries (path : Path) (whole : Settings) (settings : AddonSettings) :
    List (Setting × Setting) → Except Fault AddonSettings
  | [] => .ok settings
  | (key, value) :: entries =>
    if !key.hasText then .error (.value .longText)
    else match settingsOf? whole value with
      | none => .error (.config (.settingsNoMapping key.text path.text))
      | some found => addEntries path whole (settings.put (nameOf key) (some found)) entries

/-- The settings in the document of a file. -/
def ofSetting (path : Path) : Setting → Except Fault AddonSettings
  | .null => .ok []
  | .map entries => addEntries path entries [] entries
  | _ => .error (.config (.fileNoMapping path.text))

/-- The fault of a file whose text is refused. -/
def refusalFault (path : Path) : Yaml.Refusal → Fault
  | .malformed _ => .config (.fileMalformed path.text)
  | .value fault => fault

/-- The settings in the text of a file. -/
def ofText (path : Path) (text : String) : Except Fault AddonSettings :=
  match Yaml.parse (unifyLines text.toList) with
  | .ok setting => ofSetting path setting
  | .error refusal => .error (refusalFault path refusal)

/-- The settings in a file. -/
def load (files : FileTree) (path : Path) : Except Fault AddonSettings :=
  match files.find path with
  | .file text => ofText path text
  | .nothing => .error (.config (.fileMissing path.text))
  | .directory => .error (.unforeseen .directory)
  | .nameTooLong => .error (.unforeseen .system)

end AddonFile

end AddonUpkeep

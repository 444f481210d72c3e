import EventTemplate.Decimal
import EventTemplate.Settings.Basic
import EventTemplate.Settings.Ini
import EventTemplate.Text.DecimalDigit
import EventTemplate.Text.Sign

/-
  Settings from a file: the section TEMPLATES and its four options. An option that is missing has
  its default, and so has everything if the section or the file is missing.
-/

namespace EventTemplate

/-- The texts of the files that can be read, each under every path that leads to it. -/
abbrev Files := String → Option String

/-- Why a file holds no settings. -/
inductive SettingsError where
  /-- The path has a null character, which no path can have. -/
  | nullInPath
  | unreadable (file : String) (why : Ini.Error)
  | sizeNoNumber (value : String)
  | sizeNegative (size : Int)
  | noPolicy (option : String) (choices : List String) (value : String)
  deriving DecidableEq, Repr

/-- The section that settings stand in. -/
def settingsSection : String := "TEMPLATES"

/-- The file that is read if no other is named. -/
def settingsFile : String := "messagetemplates.ini"

namespace SettingsError

def message : SettingsError → String
  | nullInPath => "embedded null byte"
  | unreadable file why => why.message file
  | sizeNoNumber value =>
    "[" ++ settingsSection ++ "] cache_size must be an integer, got " ++ Text.quoted value
  | sizeNegative size =>
    "[" ++ settingsSection ++ "] cache_size must be non-negative, got " ++ toString size
  | noPolicy option choices value =>
    "[" ++ settingsSection ++ "] " ++ option ++ " must be one of " ++ ", ".intercalate choices
      ++ ", got " ++ Text.quoted value

end SettingsError

namespace Settings

/-- Digits of any script, with single underscores between them. -/
def readDigits? : List Char → Option (List Nat)
  | [] => none
  | [c] => (Text.digitValue? c).map ([·])
  | c :: '_' :: rest => do return (← Text.digitValue? c) :: (← readDigits? rest)
  | c :: rest => do return (← Text.digitValue? c) :: (← readDigits? rest)

/-- A whole number: a sign and digits, between white space. -/
def readInt? (s : String) : Option Int := do
  let (negative, cs) := Text.readSign (Text.trim s.toList)
  let digits ← readDigits? cs
  let n ← (Decimal.ofDigits digits).toOption
  return if negative then -(n : Int) else n

/-- One of some named choices, whatever its capitals and the white space around it. -/
def readChoice {α : Type} (option : String) (choices : List (String × α)) (value : Option String)
    (default : α) : Except SettingsError α :=
  match value with
  | none => .ok default
  | some v => match choices.lookup (Text.lower (String.ofList (Text.trim v.toList))) with
    | some a => .ok a
    | none => .error (.noPolicy option (choices.map (·.1)) v)

def readSize (value : Option String) : Except SettingsError Int :=
  match value with
  | none => .ok 0
  | some v => match readInt? v with
    | none => .error (.sizeNoNumber v)
    | some n => if n < 0 then .error (.sizeNegative n) else .ok n

def unboundChoices : List (String × UnboundPolicy) :=
  [UnboundPolicy.verbatim, .sentinel].map fun p => (p.name, p)

def invalidChoices : List (String × InvalidPolicy) :=
  [InvalidPolicy.report, .literal].map fun p => (p.name, p)

/-- The settings that a file holds. -/
def ofDocument (d : Ini.Document) : Except SettingsError Settings :=
  if (d.lookup settingsSection).isNone then .ok {}
  else do
    let value := d.value? settingsSection
    let cacheSize ← readSize (value "cache_size")
    let unbound ← readChoice "unbound_policy" unboundChoices (value "unbound_policy") .verbatim
    let sentinel := (value "unbound_sentinel").getD ({} : Settings).sentinel
    let invalid ← readChoice "invalid_templates" invalidChoices (value "invalid_templates") .report
    return { cacheSize, unbound, sentinel, invalid }

def ofText (file text : String) : Except SettingsError Settings :=
  match Ini.read text with
  | .ok d => ofDocument d
  | .error why => .error (.unreadable file why)

/-- The path of the file to read: the one asked for, or the one that the environment names, or the
usual one. An empty path counts as none. -/
def filePath (path environment : Option String) : String :=
  ((path.filter (!·.isEmpty)).or (environment.filter (!·.isEmpty))).getD settingsFile

/-- The settings of a program. A path that leads to no file leaves all defaults. -/
def load (files : Files) (path environment : Option String) : Except SettingsError Settings :=
  let path := filePath path environment
  if '\x00' ∈ path.toList then .error .nullInPath
  else match files path with
    | some text => ofText path text
    | none => .ok {}

end Settings

end EventTemplate

import EventTemplate.Binding
import EventTemplate.Text.Blank
import EventTemplate.Text.Lowercase
import EventTemplate.Text.Quoted

/-
  Files of sections and options. A line is blank, a comment, a header `[section]`, an option
  `name = value` or `name : value`, or a further line of the option before it, which it is if it is
  indented more deeply. Option names do not distinguish capitals. The section DEFAULT holds values
  for the options that other sections lack.
-/

namespace EventTemplate.Ini

/-- A line of a file, and whether a line break ends it. -/
structure Line where
  chars : List Char
  broken : Bool
  deriving DecidableEq, Repr

/-- Line breaks of every kind as the one character. -/
def unifyBreaks : List Char → List Char
  | '\r' :: '\n' :: rest => '\n' :: unifyBreaks rest
  | '\r' :: rest => '\n' :: unifyBreaks rest
  | c :: rest => c :: unifyBreaks rest
  | [] => []

/-- The lines of characters, after the characters of a line that has begun, newest first. -/
def linesFrom (begun : List Char) : List Char → List Line
  | [] => if begun.isEmpty then [] else [⟨begun.reverse, false⟩]
  | c :: rest =>
    if c = '\n' then ⟨begun.reverse, true⟩ :: linesFrom [] rest else linesFrom (c :: begun) rest

def lines (text : String) : List Line :=
  linesFrom [] (unifyBreaks text.toList)

/-- A line as it stands in the file, in quotes. -/
def Line.quoted (l : Line) : String :=
  Text.quoted (String.ofList (l.chars ++ if l.broken then ['\n'] else []))

/-- The options of a section with the lines of their values. -/
abbrev Options := List (String × List String)

/-- Why a file cannot be read. Lines are counted from one. -/
inductive Error where
  /-- An option comes before all sections. -/
  | noHeader (number : Nat) (line : Line)
  | repeatedSection (number : Nat) (name : String)
  | repeatedOption (number : Nat) (sectionName name : String)
  /-- Lines that are no options though they should be. -/
  | faultyLines (lines : List (Nat × Line))
  deriving DecidableEq, Repr

namespace Error

/-- A line number in at least two columns. -/
def lineNumber (number : Nat) : String :=
  "[line " ++ String.ofList (Text.padLeft ' ' 2 (Nat.toDigits 10 number)) ++ "]"

def message (file : String) : Error → String
  | noHeader number line =>
    "File contains no section headers.\nfile: " ++ Text.quoted file ++ ", line: "
      ++ toString number ++ "\n" ++ line.quoted
  | repeatedSection number name =>
    "While reading from " ++ Text.quoted file ++ " " ++ lineNumber number ++ ": section "
      ++ Text.quoted name ++ " already exists"
  | repeatedOption number sectionName name =>
    "While reading from " ++ Text.quoted file ++ " " ++ lineNumber number ++ ": option "
      ++ Text.quoted name ++ " in section " ++ Text.quoted sectionName ++ " already exists"
  | faultyLines lines =>
    "Source contains parsing errors: " ++ Text.quoted file
      ++ String.join (lines.map fun (number, line) =>
        "\n\t" ++ lineNumber number ++ ": " ++ line.quoted)

end Error

/-- The section with values for the options that other sections lack. -/
def defaultSection : String := "DEFAULT"

/-- What is read of a file so far. -/
structure Reading where
  /-- Every section with its options. -/
  sections : List (String × Options) := []
  /-- The section that lines belong to. -/
  current : Option String := none
  /-- The option that the next line may go on with; one without a name does not go on. -/
  option : Option String := none
  /-- How deep the line is indented that the next one may go on with. -/
  indent : Nat := 0
  /-- The lines that are no options, newest first. -/
  faults : List (Nat × Line) := []
  deriving DecidableEq, Repr

namespace Reading

def options (r : Reading) (sectionName : String) : Options :=
  (r.sections.lookup sectionName).getD []

/-- Adds a line to the value of the option that is being read, if there is one. -/
def extend (r : Reading) (line : List Char) : Reading :=
  match r.current, r.option with
  | some s, some o =>
    let value := ((r.options s).lookup o).getD []
    { r with
      sections := rebind s (rebind o (value ++ [String.ofList line]) (r.options s)) r.sections }
  | _, _ => r

/-- Notes a line that is no option. -/
def fault (r : Reading) (number : Nat) (line : Line) : Reading :=
  { r with faults := (number, line) :: r.faults }

/-- Opens a section; only the section of defaults may be opened again. -/
def openSection (r : Reading) (number : Nat) (name : String) : Except Error Reading :=
  if (r.sections.lookup name).isSome ∧ name ≠ defaultSection then
    .error (.repeatedSection number name)
  else .ok { r with
    sections := rebind name (r.options name) r.sections
    current := some name
    option := none }

/-- Sets an option of a section, which must not have it yet. -/
def setOption (r : Reading) (number : Nat) (sectionName name : String) (value : List Char) :
    Except Error Reading :=
  if ((r.options sectionName).lookup name).isSome then
    .error (.repeatedOption number sectionName name)
  else .ok { r with
    sections :=
      rebind sectionName (r.options sectionName ++ [(name, [String.ofList value])]) r.sections
    option := if name.isEmpty then none else some name }

end Reading

/-- The name in a header: all between the opening bracket, which comes first, and the last closing
one. -/
def header? : List Char → Option (List Char)
  | '[' :: rest =>
    let name := ((rest.reverse.dropWhile (· ≠ ']')).drop 1).reverse
    if name.isEmpty then none else some name
  | _ => none

/-- Whether a character stands between the name of an option and its value. -/
def isDelimiter (c : Char) : Bool :=
  c = '=' || c = ':'

/-- The name and the value of an option, which the first delimiter divides. -/
def option? (cs : List Char) : Option (List Char × List Char) :=
  match cs.dropWhile (!isDelimiter ·) with
  | [] => none
  | _ :: value => some (Text.trimEnd (cs.takeWhile (!isDelimiter ·)), Text.trim value)

/-- Whether a line without white space around it is a comment. -/
def isComment : List Char → Bool
  | c :: _ => c = '#' || c = ';'
  | [] => false

/-- Reads a line that is a header or an option, without the white space around it. -/
def Reading.statement (r : Reading) (number : Nat) (line : Line) (cs : List Char) :
    Except Error Reading :=
  match header? cs with
  | some name => r.openSection number (String.ofList name)
  | none => match r.current with
    | none => .error (.noHeader number line)
    | some s => match option? cs with
      | none => .ok (r.fault number line)
      | some (name, value) =>
        let r := if name.isEmpty then r.fault number line else r
        r.setOption number s (Text.lower (String.ofList name)) value

def Reading.line (r : Reading) (number : Nat) (line : Line) : Except Error Reading :=
  let cs := Text.trim line.chars
  let indent := (line.chars.takeWhile Text.isBlank).length
  if isComment cs then .ok r
  else if cs.isEmpty then .ok (r.extend [])
  else if r.current.isSome ∧ r.option.isSome ∧ r.indent < indent then .ok (r.extend cs)
  else Reading.statement { r with indent } number line cs

/-- Reads lines, the first of which has the given number. -/
def readFrom (r : Reading) (number : Nat) : List Line → Except Error Reading
  | [] => .ok r
  | line :: rest => match r.line number line with
    | .ok r => readFrom r (number + 1) rest
    | .error e => .error e

/-- A file that was read: sections, options and values. -/
abbrev Document := List (String × List (String × String))

/-- The value of an option: its lines, without white space at the end. -/
def joined (value : List String) : String :=
  String.ofList (Text.trimEnd ("\n".intercalate value).toList)

def read (text : String) : Except Error Document :=
  match readFrom {} 1 (lines text) with
  | .error e => .error e
  | .ok r =>
    if r.faults.isEmpty then
      .ok (r.sections.map fun (s, options) => (s, options.map fun (o, value) => (o, joined value)))
    else .error (.faultyLines r.faults.reverse)

/-- The value of an option in a section, or else among the defaults. -/
def Document.value? (d : Document) (sectionName option : String) : Option String :=
  ((d.lookup sectionName).bind (·.lookup option)).or
    ((d.lookup defaultSection).bind (·.lookup option))

end EventTemplate.Ini

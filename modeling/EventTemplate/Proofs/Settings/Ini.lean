import EventTemplate.Proofs.Property.Grammar
import EventTemplate.Settings.Ini

/-
  Files with one section, written plainly: a header, and below it a line `name = value` for each
  option. A value may hold whatever stands in one line, white space at its ends apart, and so may
  look like a comment, a header or another option.

  Proved: the lines of a file are read one by one, whatever breaks them (`chars_lines`); each line
  of an option sets that option and nothing else (`Holds.line`); and so the file is read as the
  section with its options (`read_section`).
-/

namespace EventTemplate.Ini

/-! ## Lines -/

/-- Line breaks of every kind. -/
def lineBreaks : List (List Char) := [['\n'], ['\r', '\n'], ['\r']]

/-- A line with something in it, and without a break. -/
structure Unbroken (line : List Char) : Prop where
  ne_nil : line ≠ []
  newline : '\n' ∉ line
  carriageReturn : '\r' ∉ line

instance (line : List Char) : Decidable (Unbroken line) :=
  decidable_of_iff (line ≠ [] ∧ '\n' ∉ line ∧ '\r' ∉ line)
    ⟨fun h => ⟨h.1, h.2.1, h.2.2⟩, fun h => ⟨h.ne_nil, h.newline, h.carriageReturn⟩⟩

/-- `InLines cs ls`: the characters `cs` are the lines `ls`, each followed by a line break of any
kind; behind the last line there may be none. -/
inductive InLines : List Char → List (List Char) → Prop where
  | done : InLines [] []
  | last {line : List Char} (hl : Unbroken line) : InLines line [line]
  | line {line lineBreak rest : List Char} {ls : List (List Char)} (hl : Unbroken line)
      (hb : lineBreak ∈ lineBreaks) (h : InLines rest ls) :
      InLines (line ++ (lineBreak ++ rest)) (line :: ls)

theorem unifyBreaks_append {line : List Char} (h : '\r' ∉ line) (rest : List Char) :
    unifyBreaks (line ++ rest) = line ++ unifyBreaks rest := by
  induction line with
  | nil => rfl
  | cons c line ih =>
    have hc : c ≠ '\r' := fun e => h (e ▸ List.mem_cons_self)
    have hline : '\r' ∉ line := fun hmem => h (List.mem_cons_of_mem c hmem)
    rw [List.cons_append, unifyBreaks.eq_3 _ _ (fun _ e _ => hc e) hc, ih hline, List.cons_append]

theorem InLines.head?_ne {cs : List Char} {ls : List (List Char)} (h : InLines cs ls) :
    ∀ rest, cs ≠ '\n' :: rest := by
  rintro rest rfl
  have hfirst : ∀ {line more : List Char}, Unbroken line → line ++ more ≠ '\n' :: rest := by
    intro line more hl e
    cases line with
    | nil => exact hl.ne_nil rfl
    | cons c line =>
      rw [List.head_eq_of_cons_eq e] at hl
      exact hl.newline List.mem_cons_self
  generalize hcs : '\n' :: rest = cs at h
  cases h with
  | done => cases hcs
  | last hl => exact hfirst hl (by rw [List.append_nil]; exact hcs.symm)
  | line hl _ _ => exact hfirst hl hcs.symm

theorem unifyBreaks_break {lineBreak rest : List Char} (hb : lineBreak ∈ lineBreaks)
    (hr : ∀ more, rest ≠ '\n' :: more) :
    unifyBreaks (lineBreak ++ rest) = '\n' :: unifyBreaks rest := by
  simp only [lineBreaks, List.mem_cons, List.not_mem_nil, or_false] at hb
  rcases hb with rfl | rfl | rfl
  · exact unifyBreaks.eq_3 _ _ (fun _ e _ => absurd e (by decide)) (by decide)
  · rfl
  · exact unifyBreaks.eq_2 _ hr

theorem linesFrom_append {line : List Char} (h : '\n' ∉ line) (begun rest : List Char) :
    linesFrom begun (line ++ rest) = linesFrom (line.reverse ++ begun) rest := by
  induction line generalizing begun with
  | nil => rfl
  | cons c line ih =>
    have hc : c ≠ '\n' := fun e => h (e ▸ List.mem_cons_self)
    have hline : '\n' ∉ line := fun hmem => h (List.mem_cons_of_mem c hmem)
    simp [linesFrom, hc, ih hline]

/-- The lines of a file are found one by one. -/
theorem chars_lines {text : String} {ls : List (List Char)} (h : InLines text.toList ls) :
    (lines text).map Line.chars = ls := by
  unfold lines
  generalize text.toList = cs at h
  induction h with
  | done => rfl
  | @last line hl =>
    have hunify := unifyBreaks_append hl.carriageReturn []
    have hfrom := linesFrom_append hl.newline [] []
    rw [List.append_nil] at hunify hfrom
    rw [hunify, unifyBreaks, List.append_nil, hfrom]
    simp [linesFrom, hl.ne_nil]
  | line hl hb h ih =>
    rw [unifyBreaks_append hl.carriageReturn, unifyBreaks_break hb h.head?_ne,
      linesFrom_append hl.newline]
    simp [linesFrom, ih]

/-! ## Names -/

/-- A name made of lower-case ASCII letters and underscores. -/
structure PlainName (name : List Char) : Prop where
  ne_nil : name ≠ []
  plain : ∀ c ∈ name, c.isLower = true ∨ c = '_'

instance (name : List Char) : Decidable (PlainName name) :=
  decidable_of_iff (name ≠ [] ∧ (name.all fun c => c.isLower || c = '_') = true)
    ⟨fun h => ⟨h.1, by simpa using h.2⟩, fun h => ⟨h.ne_nil, by simpa using h.plain⟩⟩

section Names

variable {name : List Char} {c : Char}

theorem toNat_of_isLower (h : c.isLower = true) : 97 ≤ c.toNat ∧ c.toNat ≤ 122 := by
  have hbounds : (decide ('a'.val ≤ c.val) && decide (c.val ≤ 'z'.val)) = true := h
  simp only [Bool.and_eq_true, decide_eq_true_eq, UInt32.le_iff_toNat_le] at hbounds
  exact hbounds

theorem PlainName.toNat (h : PlainName name) (hc : c ∈ name) : 95 ≤ c.toNat ∧ c.toNat ≤ 122 := by
  rcases h.plain c hc with hlower | rfl
  · have hn := toNat_of_isLower hlower
    omega
  · decide

theorem PlainName.notBlank (h : PlainName name) (hc : c ∈ name) : Text.isBlank c = false := by
  have hn := h.toNat hc
  exact Text.isBlank_of_visible (by omega)

theorem PlainName.ne (h : PlainName name) (hc : c ∈ name) {d : Char} (hd : d.toNat < 95) :
    c ≠ d := by
  rintro rfl
  have hn := h.toNat hc
  omega

theorem PlainName.lower (h : PlainName name) :
    Text.lower (String.ofList name) = String.ofList name := by
  have hascii : ∀ c ∈ name, c.toNat < 0x80 := fun c hc => by
    have hn := h.toNat hc
    omega
  have hmap : name.map Char.toLower = name := by
    refine (List.map_congr_left fun c hc => ?_).trans (List.map_id name)
    have hn := h.toNat hc
    exact Text.toLower_of_not_capital (by omega)
  rw [Text.lower, String.toList_ofList, Text.lowerFrom_of_ascii hascii, hmap]

end Names

/-! ## One line -/

/-- A line that opens a section. -/
def headerLine (name : String) : List Char :=
  '[' :: (name.toList ++ [']'])

/-- A line that says the value of an option. -/
def optionLine (option : String × String) : List Char :=
  option.1.toList ++ ' ' :: '=' :: ' ' :: option.2.toList

section Lines

variable {name value : List Char} {number : Nat} {line : Line}

/-- White space around a line falls away, and with it the space behind the delimiter if there is no
value. -/
theorem exists_trim (hn : PlainName name) (hv : Text.Trimmed value) :
    ∃ rest, Text.trim (name ++ ' ' :: '=' :: ' ' :: value) = name ++ ' ' :: '=' :: rest ∧
      Text.trim rest = value := by
  have hhead : ∀ rest, ∀ c ∈ (name ++ ' ' :: rest).head?, Text.isBlank c = false := by
    intro rest c hc
    obtain ⟨d, ds, rfl⟩ := List.exists_cons_of_ne_nil hn.ne_nil
    cases hc
    exact hn.notBlank List.mem_cons_self
  rw [Text.trim, Text.trimStart_of_head (hhead _)]
  cases value with
  | nil =>
    refine ⟨[], ?_, rfl⟩
    have hspace : name ++ [' ', '=', ' '] = (name ++ [' ', '=']) ++ [' '] := by simp
    rw [hspace, Text.trimEnd_append_space, Text.trimEnd_of_last]
    intro c hc
    rw [List.getLast?_append] at hc
    cases hc
    rfl
  | cons c cs =>
    refine ⟨' ' :: c :: cs, ?_, ?_⟩
    · rw [Text.trimEnd_of_last]
      intro d hd
      refine hv.last d ?_
      simpa using hd
    · have hspace : Text.trim (' ' :: c :: cs) = Text.trim (c :: cs) := rfl
      rw [hspace, hv.trim]

/-- The first delimiter is the one behind the name, whatever the value holds. -/
theorem option?_of_name (hn : PlainName name) (rest : List Char) :
    option? (name ++ ' ' :: '=' :: rest) = some (name, Text.trim rest) := by
  have hplain : ∀ c ∈ name ++ [' '], (!isDelimiter c) = true := by
    intro c hc
    rcases List.mem_append.mp hc with hc | hc
    · simp [isDelimiter, hn.ne hc (d := '=') (by decide), hn.ne hc (d := ':') (by decide)]
    · rw [List.mem_singleton.mp hc]
      rfl
  have hstop : ∀ c ∈ ('=' :: rest).head?, (!isDelimiter c) = false := by
    intro c hc
    cases hc
    rfl
  have hname : Text.trimEnd (name ++ [' ']) = name := by
    rw [Text.trimEnd_append_space]
    exact Text.trimEnd_of_last (Text.trimmed_of_forall fun c hc => hn.notBlank hc).last
  have hsplit : name ++ ' ' :: '=' :: rest = (name ++ [' ']) ++ '=' :: rest := by simp
  rw [option?, hsplit, dropWhile_append_stop hplain hstop, takeWhile_append_stop hplain hstop]
  dsimp only
  rw [hname]

/-- A line that is not indented, and no comment, is a header or an option. -/
theorem line_eq_statement {c : Char} {cs : List Char} (r : Reading) (number : Nat)
    (hl : line.chars.head? = some c) (ht : Text.trim line.chars = cs) (hcs : cs.head? = some c)
    (hb : Text.isBlank c = false) (hhash : c ≠ '#') (hsemi : c ≠ ';') :
    r.line number line = Reading.statement { r with indent := 0 } number line cs := by
  obtain ⟨more, hmore⟩ := List.head?_eq_some_iff.mp hl
  obtain ⟨more', rfl⟩ := List.head?_eq_some_iff.mp hcs
  have hindent : (line.chars.takeWhile Text.isBlank).length = 0 := by simp [hmore, hb]
  rw [Reading.line, hindent, ht]
  simp [isComment, hhash, hsemi]

theorem head?_append (hn : PlainName name) (more : List Char) :
    (name ++ more).head? = some (name.head hn.ne_nil) := by
  rw [List.head?_append, List.head?_eq_some_head hn.ne_nil]
  rfl

/-- What begins with a name sets an option. -/
theorem statement_of_name (hn : PlainName name) (r : Reading) {s : String} (hs : r.current = some s)
    (number : Nat) (line : Line) (rest : List Char) :
    r.statement number line (name ++ ' ' :: '=' :: rest) =
      r.setOption number s (String.ofList name) (Text.trim rest) := by
  have hheader : header? (name ++ ' ' :: '=' :: rest) = none := by
    have hhead := head?_append hn (' ' :: '=' :: rest)
    have hne := hn.ne (List.head_mem hn.ne_nil) (d := '[') (by decide)
    unfold header?
    split
    · rename_i e
      rw [e] at hhead
      exact absurd (Option.some.inj hhead).symm hne
    · rfl
  have hnonempty : name.isEmpty = false := by simpa using hn.ne_nil
  rw [Reading.statement, hheader, hs, option?_of_name hn]
  dsimp only
  rw [hnonempty, if_neg Bool.false_ne_true, hn.lower]

theorem header?_headerLine {name : String} (h : name ≠ "") :
    header? (headerLine name) = some name.toList := by
  simp [header?, headerLine, h]

end Lines

/-! ## One section -/

/-- A section with its options is all that is read. -/
structure Holds (r : Reading) (name : String) (options : List (String × String)) : Prop where
  sections : r.sections = [(name, options.map fun o => (o.1, [o.2]))]
  current : r.current = some name
  faults : r.faults = []

variable {r : Reading} {name : String} {options : List (String × String)}

/-- A header is read in a file of which nothing is read yet. -/
theorem holds_header (h : name ≠ "") {line : Line} (hl : line.chars = headerLine name)
    (number : Nat) : ∃ r, Reading.line {} number line = .ok r ∧ Holds r name [] := by
  have htrim : Text.trim line.chars = headerLine name := by
    rw [hl]
    refine Text.Trimmed.trim ⟨fun c hc => ?_, fun c hc => ?_⟩
    · cases hc
      rfl
    · rw [headerLine, ← List.cons_append, List.getLast?_append] at hc
      cases hc
      rfl
  have hfirst : (headerLine name).head? = some '[' := rfl
  have hstatement := line_eq_statement {} number (by rw [hl, hfirst]) htrim hfirst (by decide)
    (by decide) (by decide)
  rw [Reading.statement, header?_headerLine h] at hstatement
  dsimp only at hstatement
  rw [String.ofList_toList] at hstatement
  exact ⟨_, hstatement, rfl, rfl, rfl⟩

/-- An option with a new name is set behind the others. -/
theorem Holds.setOption (h : Holds r name options) {option : String}
    (hnew : option ∉ options.map (·.1)) (number : Nat) (value : List Char) :
    ∃ r', r.setOption number name option value = .ok r' ∧
      Holds r' name (options ++ [(option, String.ofList value)]) := by
  have hoptions : r.options name = options.map fun o => (o.1, [o.2]) := by
    simp [Reading.options, h.sections]
  have habsent : ¬ ((r.options name).lookup option).isSome = true := by
    rw [isSome_lookup_iff, hoptions, List.map_map]
    exact hnew
  rw [Reading.setOption, if_neg habsent, hoptions, h.sections]
  exact ⟨_, rfl, by simp [rebind], h.current, h.faults⟩

/-- An option with a new name is read behind the others. -/
theorem Holds.line (h : Holds r name options) {option : String × String}
    (hn : PlainName option.1.toList) (hnew : option.1 ∉ options.map (·.1))
    (hv : Text.Trimmed option.2.toList) {line : Line} (hl : line.chars = optionLine option)
    (number : Nat) : ∃ r', r.line number line = .ok r' ∧ Holds r' name (options ++ [option]) := by
  obtain ⟨rest, htrim, hrest⟩ := exists_trim hn hv
  have hfirst := List.head_mem hn.ne_nil
  have hstatement := line_eq_statement r number (by rw [hl, optionLine, head?_append hn])
    (by rw [hl, optionLine, htrim]) (head?_append hn _) (hn.notBlank hfirst)
    (hn.ne hfirst (by decide)) (hn.ne hfirst (by decide))
  have hcurrent : ({ r with indent := 0 } : Reading).current = some name := h.current
  have hholds : Holds { r with indent := 0 } name options := ⟨h.sections, h.current, h.faults⟩
  obtain ⟨r', hr', hholds'⟩ := hholds.setOption hnew number option.2.toList
  rw [statement_of_name hn _ hcurrent, hrest, String.ofList_toList, hr'] at hstatement
  rw [String.ofList_toList] at hholds'
  exact ⟨r', hstatement, hholds'⟩

/-- Options with names of their own are read in the order in which they stand. -/
theorem Holds.readFrom (h : Holds r name options) {more : List (String × String)}
    (hn : ∀ o ∈ more, PlainName o.1.toList) (hv : ∀ o ∈ more, Text.Trimmed o.2.toList)
    (hnodup : ((options ++ more).map (·.1)).Nodup) {ls : List Line}
    (hl : ls.map Line.chars = more.map optionLine) (number : Nat) :
    ∃ r', Ini.readFrom r number ls = .ok r' ∧ Holds r' name (options ++ more) := by
  induction more generalizing r options ls number with
  | nil =>
    rw [List.map_eq_nil_iff.mp hl, List.append_nil]
    exact ⟨r, rfl, h⟩
  | cons option more ih =>
    obtain ⟨line, ls, rfl, hline, hls⟩ := List.map_eq_cons_iff.mp hl
    obtain ⟨hname, hnames⟩ := List.forall_mem_cons.mp hn
    obtain ⟨hvalue, hvalues⟩ := List.forall_mem_cons.mp hv
    have hnew : option.1 ∉ options.map (·.1) := by
      rw [List.map_append, List.map_cons, List.nodup_append] at hnodup
      exact fun hmem => hnodup.2.2 _ hmem _ List.mem_cons_self rfl
    obtain ⟨r', hr', hholds⟩ := h.line hname hnew hvalue hline number
    rw [List.append_cons] at hnodup ⊢
    rw [Ini.readFrom, hr']
    exact ih hholds hnames hvalues hnodup hls (number + 1)

/-- A value of one line without white space at its end is joined to itself. -/
theorem joined_singleton {value : String} (h : Text.Trimmed value.toList) :
    joined [value] = value := by
  rw [joined, String.intercalate_singleton, Text.trimEnd_of_last h.last, String.ofList_toList]

/-- A file with one section, each line below the header saying the value of another option, is read
as that section with these options. -/
theorem read_section {text : String} (h : name ≠ "")
    (hn : ∀ o ∈ options, PlainName o.1.toList) (hv : ∀ o ∈ options, Text.Trimmed o.2.toList)
    (hnodup : (options.map (·.1)).Nodup)
    (ht : InLines text.toList (headerLine name :: options.map optionLine)) :
    read text = .ok [(name, options)] := by
  obtain ⟨header, ls, hlines, hheader, hls⟩ := List.map_eq_cons_iff.mp (chars_lines ht)
  obtain ⟨r, hr, hholds⟩ := holds_header h hheader 1
  obtain ⟨r', hr', hholds'⟩ := hholds.readFrom hn hv hnodup hls 2
  have hread : readFrom {} 1 (lines text) = .ok r' := by
    rw [hlines, Ini.readFrom, hr]
    exact hr'
  have hjoined : (options.map fun o => (o.1, joined [o.2])) = options := by
    refine (List.map_congr_left fun o ho => ?_).trans (List.map_id options)
    rw [joined_singleton (hv o ho)]
    rfl
  rw [read, hread]
  dsimp only
  rw [hholds'.sections, hholds'.faults]
  simpa [Function.comp_def] using hjoined

end EventTemplate.Ini

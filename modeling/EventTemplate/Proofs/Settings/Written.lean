import Mathlib.Data.Option.Basic
import EventTemplate.Proofs.Settings.File
import EventTemplate.Proofs.Settings.Ini

/-
  Settings that are written down and loaded again. Each of the four is written in a line of its own
  below the header, in any order: the cache size in decimal digits, the policies in letters of
  either case, and the sentinel as it is.

  Proved: numbers and policies are read as they were meant (`readInt?_of_numeral`,
  `readChoice_of_letters`), and a file that holds the four lines gives the settings back
  (`load_written`). What the sentinel holds makes no difference to the other lines, since every line
  is read as the option that it begins with (`Ini.read_section`).
-/

namespace EventTemplate

/-! ## Numbers -/

theorem digitValue?_of_isDigit {c : Char} (h : c.isDigit = true) :
    Text.digitValue? c = some (c.toNat - '0'.toNat) := by
  have hc : 48 ≤ c.toNat ∧ c.toNat ≤ 57 := Char.isDigit_iff_toNat.mp h
  -- the row of the ASCII digits is the first
  rw [Text.digitValue?, Text.digitZeros, List.find?_cons_of_pos]
  · rfl
  · simp only [Bool.and_eq_true, decide_eq_true_eq]
    omega

theorem Numeral.notBlank {ds : List Char} (h : Numeral ds) : ∀ c ∈ ds, Text.isBlank c = false := by
  intro c hc
  have hdigit : 48 ≤ c.toNat ∧ c.toNat ≤ 57 := Char.isDigit_iff_toNat.mp (h.digits c hc)
  exact Text.isBlank_of_visible (by omega)

theorem Numeral.readSign {ds : List Char} (h : Numeral ds) : Text.readSign ds = (false, ds) := by
  unfold Text.readSign
  split
  · exact absurd (h.digits '-' List.mem_cons_self) (by decide)
  · exact absurd (h.digits '+' List.mem_cons_self) (by decide)
  · rfl

namespace Settings

theorem readDigits?_of_numeral {ds : List Char} (h : Numeral ds) :
    readDigits? ds = some (ds.map fun c => c.toNat - '0'.toNat) := by
  obtain ⟨hne, hdigits⟩ := h
  induction ds with
  | nil => exact absurd rfl hne
  | cons c ds ih =>
    obtain ⟨hc, hds⟩ := List.forall_mem_cons.mp hdigits
    cases ds with
    | nil => simp [readDigits?, digitValue?_of_isDigit hc]
    | cons d ds =>
      have hd : d ≠ '_' := ne_of_isDigit (hds d List.mem_cons_self) (by decide)
      have hrest := ih (List.cons_ne_nil d ds) hds
      simp [readDigits?, hd, digitValue?_of_isDigit hc, hrest]

/-- Decimal digits, not too many of them, are read as their number. -/
theorem readInt?_of_numeral {size : String} (h : Numeral size.toList)
    (hlen : size.length ≤ Decimal.mostDigits) :
    readInt? size = some (Nat.ofDigitChars 10 size.toList 0 : Nat) := by
  have htrim : Text.trim size.toList = size.toList := (Text.trimmed_of_forall h.notBlank).trim
  have hread := Decimal.read_eq size.toList
  rw [String.length_toList, if_neg (Nat.not_lt.mpr hlen), Decimal.read] at hread
  rw [readInt?, htrim, h.readSign]
  simp only [readDigits?_of_numeral h, Option.bind_eq_bind, Option.bind_some, hread]
  rfl

theorem readSize_of_numeral {size : String} (h : Numeral size.toList)
    (hlen : size.length ≤ Decimal.mostDigits) :
    readSize (some size) = .ok (Nat.ofDigitChars 10 size.toList 0 : Nat) := by
  simp [readSize, readInt?_of_numeral h hlen]

/-! ## Policies -/

/-- Text with the letters of a name, each of them in either case. -/
def SameLetters (text name : String) : Prop :=
  text.toList.map Char.toLower = name.toList

/-- A character whose lower case is an ASCII letter is one itself. -/
theorem toNat_of_isLower_toLower {c : Char} (h : c.toLower.isLower = true) :
    65 ≤ c.toNat ∧ c.toNat ≤ 122 := by
  by_cases hcapital : 65 ≤ c.toNat ∧ c.toNat ≤ 90
  · omega
  · rw [Text.toLower_of_not_capital hcapital] at h
    have hn := Ini.toNat_of_isLower h
    omega

theorem SameLetters.toNat {text name : String} (h : SameLetters text name)
    (hname : ∀ c ∈ name.toList, c.isLower = true) :
    ∀ c ∈ text.toList, 65 ≤ c.toNat ∧ c.toNat ≤ 122 := by
  intro c hc
  refine toNat_of_isLower_toLower (hname c.toLower ?_)
  rw [← h]
  exact List.mem_map_of_mem hc

theorem SameLetters.trimmed {text name : String} (h : SameLetters text name)
    (hname : ∀ c ∈ name.toList, c.isLower = true) : Text.Trimmed text.toList := by
  refine Text.trimmed_of_forall fun c hc => ?_
  have hn := h.toNat hname c hc
  exact Text.isBlank_of_visible (by omega)

theorem SameLetters.lower {text name : String} (h : SameLetters text name)
    (hname : ∀ c ∈ name.toList, c.isLower = true) :
    Text.lower (String.ofList (Text.trim text.toList)) = name := by
  have hascii : ∀ c ∈ text.toList, c.toNat < 0x80 := by
    intro c hc
    have hn := h.toNat hname c hc
    omega
  rw [(h.trimmed hname).trim, String.ofList_toList, Text.lower, Text.lowerFrom_of_ascii hascii, h,
    String.ofList_toList]

theorem readChoice_of_letters {α : Type} {option text name : String} {choices : List (String × α)}
    {a : α} (ht : SameLetters text name) (hname : ∀ c ∈ name.toList, c.isLower = true)
    (ha : choices.lookup name = some a) (default : α) :
    readChoice option choices (some text) default = .ok a := by
  simp only [readChoice, ht.lower hname, ha]

/-! ## Settings -/

/-- Texts that settings are written in: the cache size in decimal digits, of which no more may be
written than are read; the policies in letters of either case; and a sentinel that can stand as it
is, having no white space at its ends. -/
structure Wording (s : Settings) (size unbound invalid : String) : Prop where
  digits : Numeral size.toList
  short : size.length ≤ Decimal.mostDigits
  size : s.cacheSize = (Nat.ofDigitChars 10 size.toList 0 : Nat)
  unbound : SameLetters unbound s.unbound.name
  invalid : SameLetters invalid s.invalid.name
  sentinel : Text.Trimmed s.sentinel.toList

/-- The options that settings are written in. -/
def options (s : Settings) (size unbound invalid : String) : List (String × String) :=
  [("cache_size", size), ("unbound_policy", unbound), ("unbound_sentinel", s.sentinel),
    ("invalid_templates", invalid)]

variable {s : Settings} {size unbound invalid text : String} {written : List (String × String)}
  {files : Files} {path environment : Option String}

theorem isLower_unbound (p : UnboundPolicy) : ∀ c ∈ p.name.toList, c.isLower = true := by
  cases p <;> exact List.all_eq_true.mp rfl

theorem isLower_invalid (p : InvalidPolicy) : ∀ c ∈ p.name.toList, c.isLower = true := by
  cases p <;> exact List.all_eq_true.mp rfl

theorem lookup_unboundChoices (p : UnboundPolicy) : unboundChoices.lookup p.name = some p := by
  cases p <;> decide

theorem lookup_invalidChoices (p : InvalidPolicy) : invalidChoices.lookup p.name = some p := by
  cases p <;> decide

theorem plainName_options :
    ∀ o ∈ s.options size unbound invalid, Ini.PlainName o.1.toList := by
  have hplain : ∀ name ∈ ["cache_size", "unbound_policy", "unbound_sentinel", "invalid_templates"],
      Ini.PlainName name.toList := by decide
  intro o ho
  exact hplain o.1 (List.mem_map_of_mem (f := (·.1)) ho)

theorem Wording.trimmed (h : Wording s size unbound invalid) :
    ∀ o ∈ s.options size unbound invalid, Text.Trimmed o.2.toList := by
  simp only [options, List.forall_mem_cons]
  exact ⟨Text.trimmed_of_forall h.digits.notBlank, h.unbound.trimmed (isLower_unbound _),
    h.sentinel, h.invalid.trimmed (isLower_invalid _), fun _ ho => nomatch ho⟩

/-- The options of settings give these settings. -/
theorem Wording.given (h : Wording s size unbound invalid) {d : Ini.Document}
    (hd : ∀ option, d.value? settingsSection option =
      (s.options size unbound invalid).lookup option) : Given d s := by
  refine ⟨?_, ?_, ?_, ?_⟩
  · rw [hd, h.size]
    exact readSize_of_numeral h.digits h.short
  · rw [hd]
    exact readChoice_of_letters h.unbound (isLower_unbound _) (lookup_unboundChoices _) _
  · rw [hd]
    rfl
  · rw [hd]
    exact readChoice_of_letters h.invalid (isLower_invalid _) (lookup_invalidChoices _) _

/-- Settings that are written in four lines below the header, in any order, are loaded from the file
again, whatever breaks its lines and whatever the sentinel holds. -/
theorem load_written (hw : Wording s size unbound invalid)
    (ho : written.Perm (s.options size unbound invalid))
    (ht : Ini.InLines text.toList (Ini.headerLine "TEMPLATES" :: written.map Ini.optionLine))
    (hp : '\x00' ∉ (filePath path environment).toList)
    (hf : files (filePath path environment) = some text) :
    load files path environment = .ok s := by
  have hnames : (s.options size unbound invalid).map (·.1) =
      ["cache_size", "unbound_policy", "unbound_sentinel", "invalid_templates"] := rfl
  have hnodup : (written.map (·.1)).Nodup := by
    rw [(ho.map _).nodup_iff, hnames]
    decide
  have hread : Ini.read text = .ok [(settingsSection, written)] :=
    Ini.read_section (by decide) (fun o hmem => plainName_options o (ho.mem_iff.mp hmem))
      (fun o hmem => hw.trimmed o (ho.mem_iff.mp hmem)) hnodup ht
  have hvalue : ∀ option, Ini.Document.value? [(settingsSection, written)] settingsSection option =
      (s.options size unbound invalid).lookup option := by
    intro option
    rw [← lookup_of_perm hnodup ho]
    exact Option.or_none
  exact load_eq_ok_iff.mpr (.file hp hf (.given hread rfl (hw.given hvalue)))

/-- A sentinel that looks like a comment, a header and an option stands first, the policies have
capitals among their letters, and every kind of line break occurs. -/
theorem load_written_any_order :
    let text :=
      "[TEMPLATES]\r\nunbound_sentinel = ; 100% [x] = y\ninvalid_templates = Literal\r" ++
        "cache_size = 012\nunbound_policy = SENTinel"
    load (fun path => if path = "/etc/../own.ini" then some text else none) (some "/etc/../own.ini")
      none = .ok ⟨12, .sentinel, "; 100% [x] = y", .literal⟩ := by
  intro text
  have hdigits : Numeral "012".toList := ⟨by decide, List.all_eq_true.mp rfl⟩
  have hsentinel : Text.Trimmed "; 100% [x] = y".toList := by
    constructor <;> rintro c ⟨⟩ <;> rfl
  have hwording : Wording ⟨12, .sentinel, "; 100% [x] = y", .literal⟩ "012" "SENTinel" "Literal" :=
    ⟨hdigits, by decide, by decide, rfl, rfl, hsentinel⟩
  have horder : [("unbound_sentinel", "; 100% [x] = y"), ("invalid_templates", "Literal"),
      ("cache_size", "012"), ("unbound_policy", "SENTinel")].Perm
        (options ⟨12, .sentinel, "; 100% [x] = y", .literal⟩ "012" "SENTinel" "Literal") := by
    decide
  refine load_written hwording horder ?_ (by decide) rfl
  have htext : text.toList =
      Ini.headerLine "TEMPLATES" ++ (['\r', '\n'] ++
        (Ini.optionLine ("unbound_sentinel", "; 100% [x] = y") ++ (['\n'] ++
          (Ini.optionLine ("invalid_templates", "Literal") ++ (['\r'] ++
            (Ini.optionLine ("cache_size", "012") ++ (['\n'] ++
              Ini.optionLine ("unbound_policy", "SENTinel")))))))) := by
    decide +kernel
  rw [htext]
  exact .line (by decide) (by decide) <| .line (by decide) (by decide) <|
    .line (by decide) (by decide) <| .line (by decide) (by decide) <| .last (by decide)

end Settings

end EventTemplate

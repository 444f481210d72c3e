/-
  White space, and texts without the white space at their ends.
-/

namespace EventTemplate.Text

/-- White space: the separators and line breaks of Unicode 14.0, the tab, and the four
information separators `0x1c` to `0x1f`. -/
def isBlank (c : Char) : Bool :=
  let n := c.toNat
  (0x09 ≤ n && n ≤ 0x0d) || (0x1c ≤ n && n ≤ 0x20) || n == 0x85 || n == 0xa0 || n == 0x1680 ||
    (0x2000 ≤ n && n ≤ 0x200a) || n == 0x2028 || n == 0x2029 || n == 0x202f || n == 0x205f ||
    n == 0x3000

/-- No visible ASCII character is white space. -/
theorem isBlank_of_visible {c : Char} (h : 0x21 ≤ c.toNat ∧ c.toNat ≤ 0x7e) :
    isBlank c = false := by
  simp [isBlank]
  omega

def trimStart (cs : List Char) : List Char :=
  cs.dropWhile isBlank

def trimEnd (cs : List Char) : List Char :=
  (cs.reverse.dropWhile isBlank).reverse

def trim (cs : List Char) : List Char :=
  trimEnd (trimStart cs)

/-- Characters without white space at either end. -/
structure Trimmed (cs : List Char) : Prop where
  head : ∀ c ∈ cs.head?, isBlank c = false
  last : ∀ c ∈ cs.getLast?, isBlank c = false

variable {cs : List Char}

theorem trimStart_of_head (h : ∀ c ∈ cs.head?, isBlank c = false) : trimStart cs = cs := by
  cases cs with
  | nil => rfl
  | cons c cs => simp [trimStart, h c rfl]

theorem trimEnd_of_last (h : ∀ c ∈ cs.getLast?, isBlank c = false) : trimEnd cs = cs := by
  have hreverse : ∀ c ∈ cs.reverse.head?, isBlank c = false := by
    rw [List.head?_reverse]
    exact h
  have hdrop : cs.reverse.dropWhile isBlank = cs.reverse := trimStart_of_head hreverse
  rw [trimEnd, hdrop, List.reverse_reverse]

theorem Trimmed.trim (h : Trimmed cs) : Text.trim cs = cs := by
  rw [Text.trim, trimStart_of_head h.head, trimEnd_of_last h.last]

/-- What has no white space in it has none at its ends. -/
theorem trimmed_of_forall (h : ∀ c ∈ cs, isBlank c = false) : Trimmed cs :=
  ⟨fun c hc => h c (List.mem_of_head? hc), fun c hc => h c (List.mem_of_getLast? hc)⟩

theorem trimEnd_append_space (cs : List Char) : trimEnd (cs ++ [' ']) = trimEnd cs := by
  rw [trimEnd, List.reverse_append, trimEnd]
  rfl

end EventTemplate.Text

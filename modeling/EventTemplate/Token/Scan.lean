import EventTemplate.Token.Basic

/-
  Cutting a raw template into tokens. Outside of holes `{{` and `}}` are braces of the text, a `}`
  alone is text, and a `{` alone opens a hole that reaches to the next brace; a closing one belongs
  to the hole. Every raw template can be cut.
-/

namespace EventTemplate

/-- The text that is read so far, and the raw characters it was read from, both newest first. -/
structure Pending where
  text : List Char := []
  source : List Char := []
  deriving DecidableEq, Repr

namespace Pending

/-- One more character of text, read from `source`. -/
def push (p : Pending) (c : Char) (source : List Char) : Pending :=
  ⟨c :: p.text, source.reverse ++ p.source⟩

/-- The tokens with the pending text, if there is any, in front. -/
def flush (p : Pending) (tokens : List Token) : List Token :=
  if p.text.isEmpty then tokens
  else .run ⟨String.ofList p.text.reverse, some (String.ofList p.source.reverse)⟩ :: tokens

end Pending

/-- What a hole holds: the characters up to the next brace. -/
def holeBody (cs : List Char) : List Char :=
  cs.takeWhile fun c => c ≠ '{' && c ≠ '}'

/-- What follows the characters up to the next brace. -/
def afterBody (cs : List Char) : List Char :=
  cs.dropWhile fun c => c ≠ '{' && c ≠ '}'

theorem length_afterBody_le (cs : List Char) : (afterBody cs).length ≤ cs.length :=
  (List.dropWhile_sublist _).length_le

/-- The hole whose body begins at position `start + 1`, and what follows it. -/
def readHole (start : Int) (cs : List Char) : Hole × List Char :=
  let body := holeBody cs
  let stop := start + 1 + body.length
  match afterBody cs with
  | '}' :: rest => (⟨String.ofList body, start, stop + 1, true⟩, rest)
  | rest => (⟨String.ofList body, start, stop, false⟩, rest)

theorem length_readHole_le (start : Int) (cs : List Char) :
    (readHole start cs).2.length ≤ cs.length := by
  have h := length_afterBody_le cs
  unfold readHole
  split
  · rename_i rest e; rw [e] at h; simp at h ⊢; omega
  · exact h

/-- The tokens of the characters from position `position` on, after pending text. -/
def scanFrom (position : Int) (p : Pending) : List Char → List Token
  | [] => p.flush []
  | '{' :: '{' :: rest => scanFrom (position + 2) (p.push '{' ['{', '{']) rest
  | '}' :: '}' :: rest => scanFrom (position + 2) (p.push '}' ['}', '}']) rest
  | '{' :: rest =>
    let opened := readHole position rest
    p.flush (.hole opened.1 :: scanFrom opened.1.stop {} opened.2)
  | c :: rest => scanFrom (position + 1) (p.push c [c]) rest
termination_by cs => cs.length
decreasing_by
  · simp only [List.length_cons]; omega
  · simp only [List.length_cons]; omega
  · simp only [List.length_cons]
    exact Nat.lt_succ_of_le (length_readHole_le position rest)
  · simp only [List.length_cons]; omega

/-- Cuts a raw template into tokens. -/
def scan (raw : String) : List Token :=
  scanFrom 0 {} raw.toList

end EventTemplate

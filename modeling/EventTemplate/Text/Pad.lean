/-
  Texts filled up to a least width. A text that is wide enough stays as it is: padding never cuts.
-/

namespace EventTemplate.Text

/-- Fills up in front. -/
def padLeft (fill : Char) (width : Nat) (cs : List Char) : List Char :=
  List.replicate (width - cs.length) fill ++ cs

/-- Fills up behind. -/
def padRight (fill : Char) (width : Nat) (cs : List Char) : List Char :=
  cs ++ List.replicate (width - cs.length) fill

end EventTemplate.Text

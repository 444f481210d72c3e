import EventTemplate.Proofs.Token.Partition

/-
  The holes of a raw template. They stand in it one behind the other, and none of them is empty.

  Proved: `placed_holes`, by an induction over the tokens, which tile the raw template.
-/

namespace EventTemplate

/-- The hole that a token is, if it is one. -/
def Token.hole? : Token → Option Hole
  | run _ => none
  | hole h => some h

def holes (raw : String) : List Hole :=
  (scan raw).filterMap Token.hole?

/-- The holes that a cut gives have no braces in their bodies. -/
theorem Cut.braceless {n : Int} {cs : List Char} {tokens : List Token} (h : Cut n cs tokens) :
    ∀ h ∈ tokens.filterMap Token.hole?, Braceless h.body.toList := by
  induction h with
  | done n => exact fun _ hmem => nomatch hmem
  | text _ _ _ _ ih => exact ih
  | closed hb _ ih => exact List.forall_mem_cons.mpr ⟨by simpa using hb, ih⟩
  | unclosed hb _ _ _ ih => exact List.forall_mem_cons.mpr ⟨by simpa using hb, ih⟩

theorem braceless_holes (raw : String) : ∀ h ∈ holes raw, Braceless h.body.toList :=
  (cut_scan raw).braceless

/-- Holes that stand in raw characters, one behind the other. -/
structure Placed (raw : List Char) (hs : List Hole) : Prop where
  stands : ∀ h ∈ hs, ∃ n, h.StandsAt raw n
  behind : hs.Pairwise fun h h' => h.stop ≤ h'.start

/-- A hole is not empty. -/
theorem Hole.StandsAt.start_lt {raw : List Char} {n : Nat} {h : Hole} (hs : h.StandsAt raw n) :
    h.start < h.stop := by
  rw [hs.start, hs.stop]
  split <;> omega

theorem Tiles.start_le {raw : List Char} {n : Nat} {tokens : List Token}
    (ht : Tiles raw n tokens) : ∀ h ∈ tokens.filterMap Token.hole?, (n : Int) ≤ h.start := by
  induction tokens generalizing n with
  | nil => exact fun _ hh => nomatch hh
  | cons t rest ih =>
    cases t with
    | run r =>
      obtain ⟨source, _, hrest⟩ := ht
      intro h hh
      have hle := ih hrest h hh
      omega
    | hole h' =>
      obtain ⟨hstands, hrest⟩ := ht
      have hlt := hstands.start_lt
      have hstart := hstands.start
      refine List.forall_mem_cons.mpr ⟨by omega, fun h hh => ?_⟩
      have hle := ih hrest h hh
      omega

theorem Tiles.placed {raw : List Char} {n : Nat} {tokens : List Token}
    (ht : Tiles raw n tokens) : Placed raw (tokens.filterMap Token.hole?) := by
  induction tokens generalizing n with
  | nil => exact ⟨fun _ hh => (nomatch hh), .nil⟩
  | cons t rest ih =>
    cases t with
    | run r =>
      obtain ⟨source, _, hrest⟩ := ht
      exact ih hrest
    | hole h =>
      obtain ⟨hstands, hrest⟩ := ht
      have hplaced := ih hrest
      have hlt := hstands.start_lt
      have hstart := hstands.start
      refine ⟨List.forall_mem_cons.mpr ⟨⟨n, hstands⟩, hplaced.stands⟩,
        .cons (fun h' hh' => ?_) hplaced.behind⟩
      have hle := hrest.start_le h' hh'
      omega

theorem placed_holes (raw : String) : Placed raw.toList (holes raw) := by
  have ht : Tiles raw.toList 0 (scan raw) := by simpa using (cut_scan raw).tiles [] rfl
  exact ht.placed

end EventTemplate

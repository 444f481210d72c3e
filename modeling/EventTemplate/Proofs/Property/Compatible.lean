import Mathlib.Data.List.Nodup
import EventTemplate.Template.Parse

/-
  Which designators go together: all of them are indices, or all of them are names and no name
  stands twice.

  Proved: designators that go together are the ones in which no problem is found
  (`ofDesignators_eq_nil_iff`). In others it is found once that names and indices are mixed, and
  then, in order, each name that stands among the designators before it (`ofDesignators_eq`).
-/

namespace EventTemplate

/-- Designators that go together: indices alone, or names alone that all differ. -/
def Compatible (ds : List Designator) : Prop :=
  (∀ d ∈ ds, d.isIndex = true) ∨ ((∀ d ∈ ds, d.isIndex = false) ∧ ds.Nodup)

/-- The name that a designator is, if it is one. -/
def Designator.name? : Designator → Option String
  | name s => some s
  | index _ => none

def names (ds : List Designator) : List String :=
  ds.filterMap Designator.name?

theorem names_of_indices {ds : List Designator} (h : ∀ d ∈ ds, d.isIndex = true) :
    names ds = [] := by
  refine List.filterMap_eq_nil_iff.mpr fun d hd => ?_
  cases d with
  | name s => exact absurd (h _ hd) Bool.false_ne_true
  | index n => rfl

theorem map_name_names {ds : List Designator} (h : ∀ d ∈ ds, d.isIndex = false) :
    (names ds).map .name = ds := by
  induction ds with
  | nil => rfl
  | cons d ds ih =>
    obtain ⟨hd, hds⟩ := List.forall_mem_cons.mp h
    cases d with
    | name s => exact congrArg (Designator.name s :: ·) (ih hds)
    | index n => cases hd

theorem nodup_names {ds : List Designator} (h : ∀ d ∈ ds, d.isIndex = false) :
    (names ds).Nodup ↔ ds.Nodup := by
  have hinj : Function.Injective Designator.name := fun _ _ e => Designator.name.inj e
  rw [← List.nodup_map_iff hinj, map_name_names h]

/-- No name is told to be there again exactly if the names differ from each other and from those
seen before. -/
theorem repeatedNames_eq_nil_iff (seen : List String) (ps : List Property) :
    Problem.repeatedNames seen ps = [] ↔
      (names (ps.map (·.designator))).Nodup ∧ ∀ s ∈ names (ps.map (·.designator)), s ∉ seen := by
  induction ps generalizing seen with
  | nil => simp [Problem.repeatedNames, names]
  | cons p ps ih =>
    unfold Problem.repeatedNames
    rw [List.map_cons]
    split
    · rename_i n hd
      rw [hd]
      exact ih seen
    · rename_i s hd
      have hnames : names (.name s :: ps.map (·.designator)) =
          s :: names (ps.map (·.designator)) := rfl
      rw [hd, hnames, List.nodup_cons, List.forall_mem_cons]
      split
      · rename_i hs
        exact ⟨fun h => (by cases h), fun h => absurd hs h.2.1⟩
      · rename_i hs
        rw [ih (s :: seen)]
        constructor
        · rintro ⟨hnd, hseen⟩
          refine ⟨⟨fun hmem => hseen s hmem List.mem_cons_self, hnd⟩, hs, fun t ht hts => ?_⟩
          exact hseen t ht (List.mem_cons_of_mem s hts)
        · rintro ⟨⟨hmem, hnd⟩, _, hseen⟩
          refine ⟨hnd, fun t ht hts => ?_⟩
          rcases List.mem_cons.mp hts with rfl | hts
          · exact hmem ht
          · exact hseen t ht hts

theorem mixed_eq_false_iff (ps : List Property) :
    (ps.any (!·.designator.isIndex) && ps.any (·.designator.isIndex)) = false ↔
      (∀ d ∈ ps.map (·.designator), d.isIndex = true) ∨
        ∀ d ∈ ps.map (·.designator), d.isIndex = false := by
  rw [Bool.and_eq_false_iff, List.any_eq_false, List.any_eq_false, List.forall_mem_map,
    List.forall_mem_map]
  simp

/-- Designators go together exactly if no problem is found in them. -/
theorem ofDesignators_eq_nil_iff (ps : List Property) :
    Problem.ofDesignators ps = [] ↔ Compatible (ps.map (·.designator)) := by
  have hmixed := mixed_eq_false_iff ps
  unfold Problem.ofDesignators Compatible
  rw [List.append_eq_nil_iff, repeatedNames_eq_nil_iff]
  constructor
  · rintro ⟨hif, hnd, _⟩
    have hoff : (ps.any (!·.designator.isIndex) && ps.any (·.designator.isIndex)) = false := by
      by_contra h
      rw [if_pos (Bool.of_not_eq_false h)] at hif
      cases hif
    rcases hmixed.mp hoff with hall | hall
    · exact .inl hall
    · exact .inr ⟨hall, (nodup_names hall).mp hnd⟩
  · rintro (hall | ⟨hall, hnd⟩)
    · rw [hmixed.mpr (.inl hall), names_of_indices hall]
      exact ⟨rfl, List.nodup_nil, fun _ hs => nomatch hs⟩
    · rw [hmixed.mpr (.inr hall)]
      exact ⟨rfl, (nodup_names hall).mpr hnd, fun _ _ => List.not_mem_nil⟩

/-! ## What is found -/

/-- That there are names among designators, and indices too. -/
def mixture (ds : List Designator) : List Problem :=
  if (∃ d ∈ ds, d.isIndex = false) ∧ ∃ d ∈ ds, d.isIndex = true then [.mixedDesignators] else []

/-- Each name that stands among the designators before it. -/
def repetitions (ds : List Designator) : List Problem :=
  ds.zipIdx.filterMap fun (d, i) => if d ∈ ds.take i then d.name?.map .repeatedName else none

/-- The names that are told to be there again, when the designators in `before` came first. -/
theorem repeatedNames_eq {seen : List String} {before : List Designator}
    (h : ∀ s, s ∈ seen ↔ .name s ∈ before) (ps : List Property) :
    Problem.repeatedNames seen ps =
      ((ps.map (·.designator)).zipIdx before.length).filterMap fun (d, i) =>
        if d ∈ (before ++ ps.map (·.designator)).take i then d.name?.map .repeatedName
        else none := by
  -- the designators before the next property are `before` and the ones gone through
  induction ps generalizing seen before with
  | nil => rfl
  | cons p ps ih =>
    have htake : (before ++ p.designator :: ps.map (·.designator)).take before.length = before :=
      List.take_left
    have hnext : ∀ {seen' : List String}, (∀ s, s ∈ seen' ↔ .name s ∈ before ++ [p.designator]) →
        Problem.repeatedNames seen' ps =
          ((ps.map (·.designator)).zipIdx (before.length + 1)).filterMap fun (d, i) =>
            if d ∈ (before ++ p.designator :: ps.map (·.designator)).take i then
              d.name?.map .repeatedName
            else none := by
      intro seen' h'
      have hih := ih h'
      rw [List.length_append, List.append_assoc] at hih
      exact hih
    unfold Problem.repeatedNames
    rw [List.map_cons, List.zipIdx_cons, List.filterMap_cons]
    dsimp only
    rw [htake]
    cases hd : p.designator with
    | index n =>
      rw [Designator.name?, Option.map_none, ite_self]
      dsimp only
      rw [← hd]
      refine hnext fun s => ?_
      rw [h s, hd]
      simp
    | name name =>
      rw [Designator.name?, Option.map_some]
      dsimp only
      by_cases hname : name ∈ seen
      · rw [if_pos hname, if_pos ((h name).mp hname), ← hd]
        refine congrArg _ (hnext fun s => ?_)
        rw [h s, hd, List.mem_append, List.mem_singleton]
        constructor
        · exact .inl
        · rintro (hs | hs)
          · exact hs
          · cases hs
            exact (h name).mp hname
      · rw [if_neg hname, if_neg fun hmem => hname ((h name).mpr hmem), ← hd]
        refine hnext fun s => ?_
        rw [List.mem_cons, h s, hd]
        simp [or_comm]

/-- What is wrong with the designators of properties: that they are mixed, and the names that are
there again. -/
theorem ofDesignators_eq (ps : List Property) :
    Problem.ofDesignators ps =
      mixture (ps.map (·.designator)) ++ repetitions (ps.map (·.designator)) := by
  have hnone : ∀ s, s ∈ ([] : List String) ↔ Designator.name s ∈ ([] : List Designator) := by simp
  have hrepeated := repeatedNames_eq hnone ps
  rw [List.nil_append] at hrepeated
  unfold Problem.ofDesignators mixture
  rw [hrepeated]
  simp [repetitions]

theorem mem_mixture {ds : List Designator} {p : Problem} (h : p ∈ mixture ds) :
    p = .mixedDesignators := by
  unfold mixture at h
  split at h
  · exact List.mem_singleton.mp h
  · cases h

theorem mem_repetitions {ds : List Designator} {p : Problem} (h : p ∈ repetitions ds) :
    ∃ name, p = .repeatedName name := by
  obtain ⟨⟨d, i⟩, _, hd⟩ := List.mem_filterMap.mp h
  dsimp only at hd
  split at hd
  · obtain ⟨name, _, rfl⟩ := Option.map_eq_some_iff.mp hd
    exact ⟨name, rfl⟩
  · cases hd

end EventTemplate

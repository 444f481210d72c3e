import EventTemplate.Problem.Basic
import EventTemplate.Proofs.Property.Grammar

/-
  What the words of a problem tell. A log compares its messages by their words, so it is the words
  that have to be told apart. A message begins with the kind of its problem, and it tells a place:
  in decimal digits at its end, or by the spaces in front of a caret.

  Proved: of two problems that are written in the same words, about one raw template, the kind is
  the same (`kind_eq_of_message`) and so is the place (`place_eq_of_message`), and a repeated name
  can be read from its message (`name_eq_of_message`).
-/

namespace EventTemplate

/-! ## Where texts end -/

/-- Two texts end in stretches of one kind of characters, in front of which another character
stands. If the texts are equal, so are the stretches. -/
theorem stretch_eq {q : Char → Bool} {front front' xs ys : List Char} {c c' : Char}
    (hx : ∀ x ∈ xs, q x = true) (hy : ∀ y ∈ ys, q y = true) (hc : q c = false)
    (hc' : q c' = false) (h : front ++ c :: xs = front' ++ c' :: ys) : xs = ys := by
  have hstop : ∀ {d : Char} {rest : List Char}, q d = false →
      ∀ e ∈ (d :: rest).head?, q e = false := by
    intro d rest hd e he
    cases he
    exact hd
  have hrev := congrArg (List.takeWhile q ∘ List.reverse) h
  simp only [Function.comp_apply, List.reverse_append, List.reverse_cons, List.append_assoc,
    List.singleton_append] at hrev
  rw [takeWhile_append_stop (fun x hm => hx x (List.mem_reverse.mp hm)) (hstop hc),
    takeWhile_append_stop (fun y hm => hy y (List.mem_reverse.mp hm)) (hstop hc')] at hrev
  exact List.reverse_inj.mp hrev

/-- A number behind a space can be read. -/
theorem eq_of_append_toString {front front' : String} {m n : Nat}
    (h : front ++ " " ++ toString (m : Int) = front' ++ " " ++ toString (n : Int)) : m = n := by
  have hlist := congrArg String.toList h
  have hdigits : ∀ k : Nat, (toString (k : Int)).toList = Nat.toDigits 10 k :=
    fun k => Nat.toList_repr
  simp only [String.toList_append, hdigits, List.append_assoc] at hlist
  exact toDigits_inj (stretch_eq (numeral_toDigits m).digits (numeral_toDigits n).digits
    (by decide) (by decide) hlist)

/-- Spaces between a tab and a caret can be counted. -/
theorem eq_of_append_replicate {front front' : String} {m n : Nat}
    (h : front ++ "\t" ++ String.ofList (List.replicate m ' ') ++ "^" =
      front' ++ "\t" ++ String.ofList (List.replicate n ' ') ++ "^") : m = n := by
  have hlist := congrArg String.toList ((String.append_left_inj "^").mp h)
  simp only [String.toList_append, String.toList_ofList, List.append_assoc] at hlist
  have hspaces : ∀ (k : Nat), ∀ c ∈ List.replicate k ' ', decide (c = ' ') = true := by
    intro k c hc
    rw [List.eq_of_mem_replicate hc]
    rfl
  have hrow := stretch_eq (hspaces m) (hspaces n) (by decide) (by decide) hlist
  simpa using congrArg List.length hrow

/-! ## Messages -/

namespace Problem

/-- What a problem is said to be. -/
inductive Kind where
  | bareBrace
  | unterminated
  | emptyName
  | fault
  | mixed
  | repeated
  deriving DecidableEq, Repr

/-- The kind of a problem. All faults in bodies are of one kind. -/
def kind : Problem → Kind
  | bareBrace _ _ => .bareBrace
  | unterminated _ _ => .unterminated
  | emptyName _ _ => .emptyName
  | nameExpected _ _ => .fault
  | unexpected _ _ => .fault
  | mixedDesignators => .mixed
  | repeatedName _ => .repeated

/-- The place of a problem in the raw template, if it is at one. -/
def place? : Problem → Option Int
  | bareBrace _ position => some position
  | unterminated _ start => some start
  | emptyName _ start => some start
  | nameExpected _ position => some position
  | unexpected _ position => some position
  | mixedDesignators => none
  | repeatedName _ => none

/-- How the messages of a kind begin. -/
def Kind.opening : Kind → List Char
  | bareBrace => ['B', 'a', 'r']
  | unterminated => ['U', 'n', 't']
  | emptyName => ['E', 'm', 'p']
  | fault => ['U', 'n', 'e']
  | mixed => ['D', 'o', ' ']
  | repeated => ['P', 'r', 'o']

theorem Kind.opening_injective : Function.Injective Kind.opening := by
  intro k k' h
  cases k <;> cases k' <;> first | rfl | exact absurd h (by decide)

theorem take_message (line : Option String) (p : Problem) :
    (p.message line).toList.take 3 = p.kind.opening := by
  cases p with
  | nameExpected found position => cases found <;> simp [kind, Kind.opening]
  | _ => simp [kind, Kind.opening]

/-- Problems that are written in the same words are of one kind. -/
theorem kind_eq_of_message {line line' : Option String} {p q : Problem}
    (h : p.message line = q.message line') : p.kind = q.kind := by
  apply Kind.opening_injective
  rw [← take_message line, ← take_message line', h]

/-- The place of a fault is told by the spaces at the end of its message. -/
theorem message_of_fault (line : String) {p : Problem} {n : Nat} (hk : p.kind = .fault)
    (hp : p.place? = some (n : Int)) :
    ∃ front, p.message (some line) =
      front ++ "\t" ++ String.ofList (List.replicate n ' ') ++ "^" := by
  have hpointer : ∀ front : String, front ++ pointer (some line) (n : Int) =
      (front ++ ":\n\t" ++ line ++ "\n") ++
        "\t" ++ String.ofList (List.replicate n ' ') ++ "^" := by
    intro front
    have hbreak : "\n\t" = "\n" ++ "\t" := rfl
    unfold pointer
    rw [hbreak]
    simp only [String.append_assoc, Int.toNat_natCast]
  cases p with
  | nameExpected found position =>
    cases hp
    cases found with
    | none => exact ⟨_, hpointer _⟩
    | some c => exact ⟨_, hpointer _⟩
  | unexpected c position =>
    cases hp
    exact ⟨_, hpointer _⟩
  | _ => cases hk

/-- The place of any other problem stands at the end of its message. -/
theorem message_of_not_fault (line : Option String) {p : Problem} {n : Nat} (hk : p.kind ≠ .fault)
    (hp : p.place? = some (n : Int)) :
    ∃ front, p.message line = front ++ " " ++ toString (n : Int) := by
  have hat : "` at position " = "` at position" ++ " " := rfl
  have hstarting : "` starting at position " = "` starting at position" ++ " " := rfl
  cases p with
  | bareBrace hole position =>
    cases hp
    rw [message_bareBrace, hat, ← String.append_assoc]
    exact ⟨_, rfl⟩
  | unterminated hole start =>
    cases hp
    rw [message_unterminated, hstarting, ← String.append_assoc]
    exact ⟨_, rfl⟩
  | emptyName hole start =>
    cases hp
    rw [message_emptyName, hat, ← String.append_assoc]
    exact ⟨_, rfl⟩
  | nameExpected found position => exact absurd rfl hk
  | unexpected found position => exact absurd rfl hk
  | mixedDesignators => cases hp
  | repeatedName name => cases hp

/-- Problems that are written in the same words are at the same place. -/
theorem place_eq_of_message {line : String} {p q : Problem} {m n : Nat}
    (hp : p.place? = some (m : Int)) (hq : q.place? = some (n : Int))
    (h : p.message (some line) = q.message (some line)) : m = n := by
  have hkind := kind_eq_of_message h
  by_cases hk : p.kind = .fault
  · obtain ⟨front, hfront⟩ := message_of_fault line hk hp
    obtain ⟨front', hfront'⟩ := message_of_fault line (hkind.symm.trans hk) hq
    rw [hfront, hfront'] at h
    exact eq_of_append_replicate h
  · obtain ⟨front, hfront⟩ := message_of_not_fault (some line) hk hp
    obtain ⟨front', hfront'⟩ := message_of_not_fault (some line) (hkind ▸ hk) hq
    rw [hfront, hfront'] at h
    exact eq_of_append_toString h

theorem name_eq_of_message {line line' : Option String} {name name' : String}
    (h : (repeatedName name).message line = (repeatedName name').message line') : name = name' := by
  rw [message_repeatedName, message_repeatedName] at h
  have hfront := (String.append_left_inj "` occurs more than once.").mp h
  exact (String.append_right_inj "Property name `").mp hfront

/-- Only what is wrong with designators is at no place. -/
theorem place?_eq_none_iff (p : Problem) :
    p.place? = none ↔ p.kind = .mixed ∨ p.kind = .repeated := by
  cases p <;> simp [place?, kind]

/-- What is wrong with designators is told apart from anything else by its words. -/
theorem eq_of_message {line : Option String} {p q : Problem} (hp : p.place? = none)
    (h : p.message line = q.message line) : p = q := by
  have hkind := kind_eq_of_message h
  have hq : q.place? = none := by rwa [place?_eq_none_iff, ← hkind, ← place?_eq_none_iff]
  cases p with
  | mixedDesignators =>
    cases q with
    | mixedDesignators => rfl
    | repeatedName name => cases hkind
    | _ => cases hq
  | repeatedName name =>
    cases q with
    | repeatedName name' => exact congrArg repeatedName (name_eq_of_message h)
    | mixedDesignators => cases hkind
    | _ => cases hq
  | _ => cases hp

end Problem

end EventTemplate

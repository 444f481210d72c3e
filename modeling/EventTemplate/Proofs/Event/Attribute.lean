import Mathlib.Data.List.Basic
import EventTemplate.Event.Attribute
import EventTemplate.Template.Parse

/-
  What becomes of templates and events when their users try to change them, as often as they like
  and under whatever names.

  Proved: attempts are refused one after the other, and change nothing, exactly if each of them is
  refused (`refuses_iff`). So it is with all attempts on a template. Of an event only the two parts
  that it stores can be taken away, and only by deleting them by name: which attempts are refused
  (`refused_iff`), and what is left after any attempts (`changeAll_event`), is told in full.
  Together: `attributes_kept`. A part that is deleted is gone (`delete_template_of_event`).
-/

namespace EventTemplate

/-- Whether an attempt deletes the attribute of a name. -/
def Attempt.deletes (name : String) : Attempt → Bool
  | assign _ _ => false
  | delete deleted => deleted = name

/-- Whether a refusal is about an attribute. One is about the kind that everything has. -/
def Refusal.aboutAttribute : Refusal → Bool
  | kindless => false
  | _ => true

namespace Shared

variable {s : Shared} {attempts : List Attempt}

/-! ## One attempt after the other -/

/-- Why an attempt is refused, if it is. -/
def refusal? (s : Shared) (a : Attempt) : Option Refusal :=
  match s.change a with
  | .ok _ => none
  | .error why => some why

/-- The thing after an attempt. -/
def next (s : Shared) (a : Attempt) : Shared :=
  match s.change a with
  | .ok s => s
  | .error _ => s

theorem changeAll_cons (s : Shared) (a : Attempt) (rest : List Attempt) :
    s.changeAll (a :: rest) =
      (s.refusal? a :: ((s.next a).changeAll rest).1, ((s.next a).changeAll rest).2) := by
  rw [changeAll, refusal?, next]
  cases s.change a <;> rfl

theorem next_of_refused {a : Attempt} {why : Refusal} (h : s.refusal? a = some why) :
    s.next a = s := by
  rw [refusal?] at h
  rw [next]
  cases hchange : s.change a with
  | ok s' => simp [hchange] at h
  | error why => rfl

/-- Every attempt is refused, for a reason of some sort, and the thing is as it was. -/
def Refuses (s : Shared) (attempts : List Attempt) (sort : Refusal → Prop) : Prop :=
  ∃ whys : List Refusal, whys.length = attempts.length ∧ (∀ why ∈ whys, sort why) ∧
    s.changeAll attempts = (whys.map some, s)

/-- Attempts are refused one after the other exactly if each of them is, since none that is refused
changes what the next one meets. -/
theorem refuses_iff {sort : Refusal → Prop} :
    s.Refuses attempts sort ↔ ∀ a ∈ attempts, ∃ why, s.refusal? a = some why ∧ sort why := by
  induction attempts with
  | nil => exact ⟨fun _ _ ha => (nomatch ha), fun _ => ⟨[], rfl, fun _ hwhy => (nomatch hwhy), rfl⟩⟩
  | cons a rest ih =>
    rw [List.forall_mem_cons, ← ih]
    constructor
    · rintro ⟨whys, hlen, hsorts, hall⟩
      rw [changeAll_cons, Prod.mk.injEq, eq_comm, List.map_eq_cons_iff] at hall
      obtain ⟨⟨why, whys, rfl, hwhy, hrest⟩, hkept⟩ := hall
      obtain ⟨hsort, hsorts⟩ := List.forall_mem_cons.mp hsorts
      rw [next_of_refused hwhy.symm] at hrest hkept
      exact ⟨⟨why, hwhy.symm, hsort⟩, whys, Nat.succ.inj hlen, hsorts, Prod.ext hrest.symm hkept⟩
    · rintro ⟨⟨why, hwhy, hsort⟩, whys, hlen, hsorts, hall⟩
      refine ⟨why :: whys, congrArg (· + 1) hlen, List.forall_mem_cons.mpr ⟨hsort, hsorts⟩, ?_⟩
      rw [changeAll_cons, next_of_refused hwhy, hwhy, hall, List.map_cons]

/-! ## Templates -/

theorem refusal?_template (t : Template) (a : Attempt) :
    (template t).refusal? a = some (.immutable "Template") := by
  cases a <;> rfl

/-! ## Events -/

section Events

variable (t : Option Template) (bound : Option (List (Designator × Captured)))

/-- What an event does not store cannot be deleted. -/
theorem delete_of_ne {name : String} (ht : name ≠ "template") (hb : name ≠ "_properties") :
    ∃ why, (event t bound).delete name = .error why ∧
      (why.aboutAttribute = true ↔ name ≠ "__class__") := by
  by_cases hderived : name = "values_by_key"
  · subst hderived
    exact ⟨_, rfl, fun _ => by decide, fun _ => rfl⟩
  · by_cases hkind : name = "__class__"
    · subst hkind
      exact ⟨_, rfl, by decide⟩
    · simp only [delete, EventAttribute.ofName?, ht, hb, hderived, hkind, if_false]
      by_cases hcommon : name ∈ EventAttribute.commonNames
      · rw [if_pos hcommon]
        exact ⟨_, rfl, fun _ => hkind, fun _ => rfl⟩
      · rw [if_neg hcommon]
        exact ⟨_, rfl, fun _ => hkind, fun _ => rfl⟩

/-- An attempt takes a part of an event away if it deletes that part, and nothing else. -/
theorem next_event (a : Attempt) :
    (event t bound).next a =
      .event (if a.deletes "template" then none else t)
        (if a.deletes "_properties" then none else bound) := by
  cases a with
  | assign name value => rfl
  | delete name =>
    by_cases ht : name = "template"
    · subst ht
      cases t <;> rfl
    · by_cases hb : name = "_properties"
      · subst hb
        cases bound <;> rfl
      · obtain ⟨why, hwhy, _⟩ := delete_of_ne t bound ht hb
        simp [next, change, hwhy, Attempt.deletes, ht, hb]

/-- An attempt on an event is refused as one on an attribute, if it deletes neither a part that the
event stores nor its kind. -/
theorem refused_iff (e : Event) (a : Attempt) :
    (∃ why, (ofEvent e).refusal? a = some why ∧ why.aboutAttribute = true) ↔
      ∀ name ∈ ["template", "_properties", "__class__"], a.deletes name = false := by
  cases a with
  | assign name value => exact ⟨fun _ _ _ => rfl, fun _ => ⟨_, rfl, rfl⟩⟩
  | delete name =>
    by_cases ht : name = "template"
    · subst ht
      exact iff_of_false (fun ⟨_, hwhy, _⟩ => nomatch hwhy)
        fun h => absurd (h "template" (by decide)) (by decide)
    · by_cases hb : name = "_properties"
      · subst hb
        exact iff_of_false (fun ⟨_, hwhy, _⟩ => nomatch hwhy)
          fun h => absurd (h "_properties" (by decide)) (by decide)
      · obtain ⟨why, hwhy, habout⟩ := delete_of_ne (some e.template) (some e.bound) ht hb
        have hrefused : (ofEvent e).refusal? (.delete name) = some why := by
          rw [refusal?, change, ofEvent, hwhy]
        simp [hrefused, habout, Attempt.deletes, ht, hb]

/-- A part of an event is left if no attempt deletes it, and it is as it was. -/
theorem changeAll_event (attempts : List Attempt) :
    ((event t bound).changeAll attempts).2 =
      .event (if attempts.any (·.deletes "template") then none else t)
        (if attempts.any (·.deletes "_properties") then none else bound) := by
  induction attempts generalizing t bound with
  | nil => rfl
  | cons a rest ih =>
    rw [changeAll_cons, next_event, ih]
    simp only [List.any_cons, Bool.or_eq_true]
    congr 1 <;> split <;> split <;> simp_all

end Events

/-- The attributes of templates and events. Every attempt on a template is refused, and the template
is as it was. So it is with an event, exactly if no attempt deletes a part that the event stores, or
its kind. Whatever the attempts, an event loses only the parts that are deleted, and what is left of
it is as it was. -/
theorem attributes_kept (t : Template) (e : Event) (attempts : List Attempt) :
    (template t).Refuses attempts (· = .immutable "Template") ∧
    ((ofEvent e).Refuses attempts (·.aboutAttribute = true) ↔
      ∀ a ∈ attempts, ∀ name ∈ ["template", "_properties", "__class__"],
        a.deletes name = false) ∧
    ((ofEvent e).changeAll attempts).2 =
      .event (if attempts.any (·.deletes "template") then none else some e.template)
        (if attempts.any (·.deletes "_properties") then none else some e.bound) := by
  refine ⟨refuses_iff.mpr fun a _ => ⟨_, refusal?_template t a, rfl⟩, ?_,
    changeAll_event (some e.template) (some e.bound) attempts⟩
  simp only [refuses_iff, refused_iff]

/-- The template of an event is deleted: nothing refuses that, and no event is left. -/
theorem delete_template_of_event :
    ∃ t, Template.parse "{a}" = .ok t ∧
      let s := ofEvent (.bind t [.int 1])
      ¬ s.Refuses [.delete "template"] (·.aboutAttribute = true) ∧
        (s.changeAll [.delete "template"]).1 = [none] ∧
        s.event?.isSome = true ∧ (s.changeAll [.delete "template"]).2.event? = none := by
  refine ⟨⟨"{a}", [.property ⟨.name "a", .plain, none, none, some "{a}"⟩]⟩,
    by decide +kernel, ?_, rfl, rfl, rfl⟩
  rintro ⟨whys, _, _, hall⟩
  cases congrArg Prod.snd hall

end Shared

end EventTemplate

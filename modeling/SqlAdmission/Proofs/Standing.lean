import Mathlib.Data.List.Basic

/-!
# Standing events

An event of a history stands when it took effect and no later event undid it.
Whether it took effect may depend on what came before it.  A history that
grows by one event keeps what the event does not undo, and gains the event.
-/

namespace SqlAdmission

variable {α : Type}

/-- Some event of a history took effect, and none of the later ones undid it. -/
def Standing (made : List α → α → Prop) (undoes : α → Prop)
    (history : List α) : Prop :=
  ∃ earlier event later, history = earlier ++ event :: later ∧
    made earlier event ∧ ∀ next ∈ later, ¬undoes next

variable {made : List α → α → Prop} {undoes : α → Prop}

theorem not_standing_nil : ¬Standing made undoes [] := by
  intro standing
  obtain ⟨earlier, event, later, split, -⟩ := standing
  simp at split

theorem standing_append_singleton_iff {history : List α} {last : α} :
    Standing made undoes (history ++ [last]) ↔
      made history last ∨ Standing made undoes history ∧ ¬undoes last := by
  constructor
  · intro standing
    obtain ⟨earlier, event, later, split, effective, kept⟩ := standing
    -- The event either is the last one or lies in the history before it.
    rcases later.eq_nil_or_concat' with rfl | ⟨between, final, rfl⟩
    · obtain ⟨rfl, single⟩ := List.append_inj' split rfl
      cases single
      exact .inl effective
    · rw [← List.cons_append, ← List.append_assoc] at split
      obtain ⟨rfl, single⟩ := List.append_inj' split rfl
      cases single
      refine .inr ⟨⟨earlier, event, between, rfl, effective, ?_⟩, ?_⟩
      · intro next member
        exact kept next (List.mem_append_left _ member)
      · exact kept last (List.mem_append_right _ List.mem_cons_self)
  · intro standing
    rcases standing with
      effective | ⟨⟨earlier, event, later, rfl, effective, kept⟩, final⟩
    · exact ⟨history, last, [], rfl, effective, by simp⟩
    · refine ⟨earlier, event, later ++ [last], by simp, effective, ?_⟩
      intro next member
      rcases List.mem_append.mp member with old | new
      · exact kept next old
      · rw [List.mem_singleton.mp new]
        exact final

end SqlAdmission

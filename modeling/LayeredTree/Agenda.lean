/-!
# Agendas

An agenda is a list of pending tasks, each with a rank. A step takes the first task and puts
finitely many tasks of smaller rank in its place, however many they are. The main statement is
that no run of such steps goes on for ever, which is why walks over trees with layers of any
width end once their depth is bounded.
-/

namespace LayeredTree

/-- The ranks of the tasks that a walk has still to do, the next one first. -/
structure Agenda where
  /-- The ranks, in the order in which the tasks are taken. -/
  ranks : List Nat

namespace Agenda

/-- One step on an agenda: the first task gives way to tasks of smaller rank. -/
def Shrinks (after before : Agenda) : Prop :=
  ∃ rank rest smaller, before.ranks = rank :: rest ∧ after.ranks = smaller ++ rest ∧
    ∀ r ∈ smaller, r < rank

private theorem acc_append (rank : Nat)
    (ih : ∀ r, r < rank → ∀ rest, Acc Shrinks ⟨rest⟩ → Acc Shrinks ⟨r :: rest⟩)
    (smaller rest : List Nat) (hs : ∀ r ∈ smaller, r < rank) (h : Acc Shrinks ⟨rest⟩) :
    Acc Shrinks ⟨smaller ++ rest⟩ := by
  induction smaller with
  | nil => exact h
  | cons r smaller ihs =>
    exact ih r (hs r (List.mem_cons_self ..)) _
      (ihs fun r' h' => hs r' (List.mem_cons_of_mem _ h'))

private theorem acc_cons (rank : Nat) :
    ∀ rest, Acc Shrinks ⟨rest⟩ → Acc Shrinks ⟨rank :: rest⟩ := by
  induction rank using Nat.strongRecOn with
  | ind rank ih =>
    intro rest h
    constructor
    rintro ⟨ranks⟩ ⟨_, _, smaller, hb, rfl, hs⟩
    injection hb with hr hrest
    subst hr hrest
    exact acc_append _ ih smaller _ hs h

/-- Every run of steps on agendas ends. -/
theorem shrinks_wellFounded : WellFounded Shrinks := by
  constructor
  rintro ⟨ranks⟩
  induction ranks with
  | nil =>
    constructor
    rintro _ ⟨_, _, _, hb, _⟩
    cases hb
  | cons rank rest ih => exact acc_cons rank rest ih

instance : WellFoundedRelation Agenda := ⟨Shrinks, shrinks_wellFounded⟩

end Agenda

end LayeredTree

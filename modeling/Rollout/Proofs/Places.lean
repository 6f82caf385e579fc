/-!
# Places in trees

A place in a tree is the indices that lead down to it, and places are compared as words in a
dictionary are, which is document order. A walk that looks at a tree before its parts and takes these
in turn stops at the first place where something is wrong.
-/

set_option autoImplicit false

namespace Rollout.Places

variable {τ φ : Type}

/-- The part of a tree at a place. -/
def part? (parts : τ → List τ) : τ → List Nat → Option τ
  | tree, [] => some tree
  | tree, index :: rest =>
      match (parts tree)[index]? with
      | some part => part? parts part rest
      | none => none

/-- A walk answers what is wrong with a tree itself, or else what it answers for the first part with
which something is wrong. -/
def Walks (parts : τ → List τ) (own walk : τ → Option φ) : Prop :=
  ∀ tree, walk tree = (own tree).or ((parts tree).findSome? walk)

variable {parts : τ → List τ} {own walk : τ → Option φ}

/-- What a tree passes on to its parts holds at every place in it. -/
theorem part?_preserves {holds : τ → Prop}
    (passes : ∀ tree, holds tree → ∀ part ∈ parts tree, holds part) {tree part : τ}
    (here : holds tree) (place : List Nat) (found : part? parts tree place = some part) :
    holds part := by
  induction place generalizing tree with
  | nil =>
      cases found
      exact here
  | cons index rest ih =>
      rw [part?] at found
      split at found
      · next below inside => exact ih (passes tree here below (List.mem_of_getElem? inside)) found
      · cases found

namespace Walks

variable (walks : Walks parts own walk)

include walks

theorem eq_none_iff (tree : τ) :
    walk tree = none ↔ own tree = none ∧ ∀ part ∈ parts tree, walk part = none := by
  rw [walks tree, Option.or_eq_none_iff, List.findSome?_eq_none_iff]

private theorem own_eq_none {tree : τ} (passed : walk tree = none) (place : List Nat) {part : τ}
    (found : part? parts tree place = some part) : own part = none := by
  have passes : ∀ above, walk above = none → ∀ below ∈ parts above, walk below = none :=
    fun above walked => ((walks.eq_none_iff above).mp walked).2
  exact ((walks.eq_none_iff part).mp (part?_preserves passes passed place found)).1

/-- What a walk finds is wrong at some place, and nothing is at any place before it. -/
theorem first_of_eq_some {size : τ → Nat}
    (smaller : ∀ tree, ∀ part ∈ parts tree, size part < size tree) {tree : τ} {fault : φ}
    (stopped : walk tree = some fault) :
    ∃ place part, part? parts tree place = some part ∧ own part = some fault ∧
      ∀ earlier other, earlier < place → part? parts tree earlier = some other →
        own other = none := by
  induction tree using (measure size).wf.induction with
  | h tree ih =>
      rw [walks tree] at stopped
      cases here : own tree with
      | some flaw =>
          rw [here] at stopped
          cases stopped
          refine ⟨[], tree, rfl, here, ?_⟩
          intro earlier _ before
          exact absurd before (List.not_lt_nil earlier)
      | none =>
          rw [here, Option.none_or] at stopped
          obtain ⟨front, part, behind, split, found, passed⟩ :=
            List.findSome?_eq_some_iff.mp stopped
          have member : part ∈ parts tree := by simp [split]
          have standing : (parts tree)[front.length]? = some part := by simp [split]
          obtain ⟨place, flawed, leads, wrong, first⟩ := ih part (smaller tree part member) found
          refine ⟨front.length :: place, flawed, by rw [part?, standing]; exact leads, wrong, ?_⟩
          intro earlier other before leadsTo
          cases earlier with
          | nil =>
              cases leadsTo
              exact here
          | cons index rest =>
              rw [part?] at leadsTo
              rcases List.cons_lt_cons_iff.mp before with left | ⟨same, below⟩
              · -- the place is in a part that was walked through before
                have inFront : (parts tree)[index]? = front[index]? := by
                  rw [split, List.getElem?_append_left left]
                rw [inFront] at leadsTo
                split at leadsTo
                · next above stands =>
                    have walked := passed above (List.mem_of_getElem? stands)
                    exact walks.own_eq_none walked rest leadsTo
                · cases leadsTo
              · rw [same, standing] at leadsTo
                exact first rest other below leadsTo

theorem eq_none_iff_places {size : τ → Nat}
    (smaller : ∀ tree, ∀ part ∈ parts tree, size part < size tree) (tree : τ) :
    walk tree = none ↔
      ∀ place part, part? parts tree place = some part → own part = none := by
  constructor
  · intro passed place part found
    exact walks.own_eq_none passed place found
  · intro sound
    cases stopped : walk tree with
    | none => rfl
    | some fault =>
        obtain ⟨place, part, found, wrong, _⟩ := walks.first_of_eq_some smaller stopped
        rw [sound place part found] at wrong
        cases wrong

end Walks

end Rollout.Places

import Mathlib.Data.List.Forall2
import Mathlib.Tactic.Common
import RecordFilter.Predicate.Chain
import RecordFilter.Predicate.Truth

/-!
# Chains and their leaves

The leaves of a chain are the leaves of what was joined, and what holds of all leaves and is kept by
every node of the chain holds of the whole (`chain_induction`). So the truth of a predicate is that
of its leaves taken together: all of them for `and`, some of them for `or`. How a chain leans, in
which order its leaves stand and how often a leaf comes therefore make no difference to its truth.
-/

namespace RecordFilter.Proofs
open RecordFilter.Predicate

variable {α : Type} {connective : Connective}

/-- The predicate is joined by the connective. -/
def IsNode (connective : Connective) (p : Predicate α) : Prop :=
  ∃ left right, p = .joined connective left right

lemma leaves_joined_self (left right : Predicate α) :
    (Predicate.joined connective left right).leaves connective =
      left.leaves connective ++ right.leaves connective := by
  rw [leaves, if_pos rfl]

lemma leaves_of_not_isNode {p : Predicate α} (h : ¬IsNode connective p) :
    p.leaves connective = [p] := by
  cases p with
  | joined c left right =>
    rw [leaves, if_neg]
    rintro rfl
    exact h ⟨left, right, rfl⟩
  | _ => rfl

/-- Induction along the chain at the root: from the leaves, whatever they are, up through its
nodes. -/
@[elab_as_elim]
theorem chain_induction (connective : Connective) {motive : Predicate α → Prop}
    (leaf : ∀ p, ¬IsNode connective p → motive p)
    (node : ∀ left right, motive left → motive right → motive (.joined connective left right))
    (p : Predicate α) : motive p := by
  induction p with
  | joined c left right ihl ihr =>
    by_cases hc : c = connective
    · subst hc
      exact node left right ihl ihr
    · apply leaf
      rintro ⟨_, _, heq⟩
      cases heq
      exact hc rfl
  | _ =>
    apply leaf
    rintro ⟨_, _, heq⟩
    cases heq

/-- The leaves of a chain are the leaves of its parts, in order. -/
lemma leaves_chainFrom (p : Predicate α) (ps : List (Predicate α)) :
    (chainFrom connective p ps).leaves connective =
      (p :: ps).flatMap fun q => q.leaves connective := by
  induction ps generalizing p with
  | nil => simp [chainFrom]
  | cons q ps ih =>
    rw [chainFrom, leaves_joined_self, ih]
    exact List.flatMap_cons.symm

lemma chain_cons (h : connective ≠ .not) (p : Predicate α) (ps : List (Predicate α)) :
    chain connective (p :: ps) = .ok (chainFrom connective p ps) := by
  cases ps with
  | nil => rfl
  | cons q ps => rw [chain, if_neg h]

/-! ### Truth -/

/-- The truth value of values joined by a connective. -/
def joins (connective : Connective) (values : List Bool) : Bool :=
  match connective with
  | .or => values.any id
  | _ => values.all id

lemma joins_singleton (connective : Connective) (b : Bool) : joins connective [b] = b := by
  cases connective <;> simp [joins]

lemma joins_append (connective : Connective) (xs ys : List Bool) :
    joins connective (xs ++ ys) = joins connective [joins connective xs, joins connective ys] := by
  cases connective <;> simp [joins]

lemma joins_cons (connective : Connective) (b : Bool) (xs : List Bool) :
    joins connective (b :: xs) = joins connective [b, joins connective xs] := by
  rw [← List.singleton_append, joins_append, joins_singleton]

/-- Joined values that are joined again may as well be joined at once. -/
lemma joins_flatMap {β : Type} (connective : Connective) (f : β → List Bool) (xs : List β) :
    joins connective (xs.flatMap f) =
      joins connective (xs.map fun x => joins connective (f x)) := by
  induction xs with
  | nil => rfl
  | cons x xs ih => rw [List.flatMap_cons, joins_append, ih, List.map_cons, ← joins_cons]

/-- Neither the order nor the repetition of values counts. -/
lemma joins_congr (connective : Connective) {xs ys : List Bool} (h : ∀ b, b ∈ xs ↔ b ∈ ys) :
    joins connective xs = joins connective ys := by
  rw [Bool.eq_iff_iff]
  cases connective <;> simp [joins, h]

lemma exists_append_of_forall₂ {β γ : Type} {R : β → γ → Prop} {xs xs' : List β} {ys : List γ}
    (h : List.Forall₂ R (xs ++ xs') ys) :
    ∃ zs zs', ys = zs ++ zs' ∧ List.Forall₂ R xs zs ∧ List.Forall₂ R xs' zs' := by
  induction xs generalizing ys with
  | nil => exact ⟨[], ys, rfl, .nil, h⟩
  | cons x xs ih =>
    obtain _ | ⟨hx, hrest⟩ := h
    obtain ⟨zs, zs', rfl, hzs, hzs'⟩ := ih hrest
    exact ⟨_ :: zs, zs', rfl, .cons hx hzs, hzs'⟩

section Truth

variable {holds : Predicate α → Bool}

lemma truth?_joined (h : connective ≠ .not) {left right : Predicate α} {a b : Bool}
    (hleft : left.truth? holds = some a) (hright : right.truth? holds = some b) :
    (Predicate.joined connective left right).truth? holds = some (joins connective [a, b]) := by
  cases connective with
  | and => simp [truth?, hleft, hright, joins]
  | or => simp [truth?, hleft, hright, joins]
  | not => exact absurd rfl h

/-- A predicate is as true as its leaves together. -/
theorem truth?_of_leaves (h : connective ≠ .not) {p : Predicate α} {values : List Bool}
    (hleaves : List.Forall₂ (fun leaf b => leaf.truth? holds = some b) (p.leaves connective)
      values) : p.truth? holds = some (joins connective values) := by
  induction p using chain_induction connective generalizing values with
  | leaf p hp =>
    rw [leaves_of_not_isNode hp] at hleaves
    obtain _ | ⟨htruth, _ | _⟩ := hleaves
    rw [htruth, joins_singleton]
  | node left right ihl ihr =>
    rw [leaves_joined_self] at hleaves
    obtain ⟨xs, ys, rfl, hxs, hys⟩ := exists_append_of_forall₂ hleaves
    rw [truth?_joined h (ihl hxs) (ihr hys), joins_append]

/-- A chain is as true as its parts together. -/
theorem truth?_chainFrom (h : connective ≠ .not) {p : Predicate α} {ps : List (Predicate α)}
    {values : List Bool}
    (hparts : List.Forall₂ (fun q b => q.truth? holds = some b) (p :: ps) values) :
    (chainFrom connective p ps).truth? holds = some (joins connective values) := by
  induction ps generalizing p values with
  | nil =>
    obtain _ | ⟨hp, _ | _⟩ := hparts
    rw [chainFrom, hp, joins_singleton]
  | cons q ps ih =>
    obtain _ | ⟨hp, hrest⟩ := hparts
    rw [chainFrom, truth?_joined h hp (ih hrest), ← joins_cons]

end Truth

end RecordFilter.Proofs

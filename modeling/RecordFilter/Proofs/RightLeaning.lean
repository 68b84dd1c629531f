import Mathlib.Data.List.Forall2
import Mathlib.Tactic.Common
import RecordFilter.Proofs.Chains

/-!
# The right-leaning form of a chain

Of all chains with the same leaves one leans to the right: no node of it has a node of the chain on
its left. Joining the leaves of a predicate makes this chain, which has the same leaves and the same
truth and is the predicate itself only if that leans to the right already. The other way round, the
leaves of joined predicates are the leaves of each in turn.
-/

namespace RecordFilter.Proofs
open RecordFilter.Predicate

variable {α β : Type} {connective : Connective}

/-- `q` is found from `p` downwards, passing through nodes of the connective alone. -/
inductive Reaches (connective : Connective) : Predicate α → Predicate α → Prop
  | refl (p : Predicate α) : Reaches connective p p
  | left {left q : Predicate α} (right : Predicate α) (h : Reaches connective left q) :
      Reaches connective (.joined connective left right) q
  | right {right q : Predicate α} (left : Predicate α) (h : Reaches connective right q) :
      Reaches connective (.joined connective left right) q

/-- No node of the chain at the root has a node of the chain on its left. -/
def LeansRight (connective : Connective) (p : Predicate α) : Prop :=
  ∀ left right, Reaches connective p (.joined connective left right) → ¬IsNode connective left

lemma not_isNode_of_mem_leaves {p leaf : Predicate α} (h : leaf ∈ p.leaves connective) :
    ¬IsNode connective leaf := by
  induction p using chain_induction connective with
  | leaf p hp =>
    rw [leaves_of_not_isNode hp, List.mem_singleton] at h
    rw [h]
    exact hp
  | node left right ihl ihr =>
    rw [leaves_joined_self] at h
    exact (List.mem_append.1 h).elim ihl ihr

lemma isNode_map {f : α → β} {p : Predicate α} :
    IsNode connective (p.map f) ↔ IsNode connective p := by
  constructor
  · rintro ⟨left, right, heq⟩
    cases p with
    | joined c left' right' =>
      cases heq
      exact ⟨left', right', rfl⟩
    | _ => cases heq
  · rintro ⟨left, right, rfl⟩
    exact ⟨left.map f, right.map f, rfl⟩

lemma Reaches.eq_of_not_isNode {p q : Predicate α} (h : Reaches connective p q)
    (hp : ¬IsNode connective p) : q = p := by
  cases h with
  | refl => rfl
  | left right _ => exact absurd ⟨_, right, rfl⟩ hp
  | right left _ => exact absurd ⟨left, _, rfl⟩ hp

lemma leansRight_of_not_isNode {p : Predicate α} (hp : ¬IsNode connective p) :
    LeansRight connective p := by
  intro left right hreaches
  exact absurd ⟨left, right, (hreaches.eq_of_not_isNode hp).symm⟩ hp

lemma leansRight_joined_self {left right : Predicate α} :
    LeansRight connective (.joined connective left right) ↔
      ¬IsNode connective left ∧ LeansRight connective right := by
  constructor
  · intro h
    exact ⟨h left right (.refl _), fun l r hreaches => h l r (.right left hreaches)⟩
  · rintro ⟨hleft, hright⟩ l r hreaches
    cases hreaches with
    | refl => exact hleft
    | left _ h => exact leansRight_of_not_isNode hleft l r h
    | right _ h => exact hright l r h

lemma leansRight_map {f : α → β} {p : Predicate α} :
    LeansRight connective (p.map f) ↔ LeansRight connective p := by
  induction p using chain_induction connective with
  | leaf p hp =>
    exact iff_of_true (leansRight_of_not_isNode (mt isNode_map.1 hp)) (leansRight_of_not_isNode hp)
  | node left right _ ihr =>
    rw [map, leansRight_joined_self, leansRight_joined_self, isNode_map]
    exact and_congr_right fun _ => ihr

lemma leansRight_chainFrom {p : Predicate α} {ps : List (Predicate α)}
    (h : ∀ q ∈ p :: ps, ¬IsNode connective q) :
    LeansRight connective (chainFrom connective p ps) := by
  induction ps generalizing p with
  | nil => exact leansRight_of_not_isNode (h p List.mem_cons_self)
  | cons q ps ih =>
    obtain ⟨hp, hps⟩ := List.forall_mem_cons.1 h
    rw [chainFrom]
    exact leansRight_joined_self.2 ⟨hp, ih hps⟩

/-- A predicate that leans to the right is the chain of its leaves. -/
lemma chain_leaves_of_leansRight (hconnective : connective ≠ .not) {p : Predicate α}
    (h : LeansRight connective p) : chain connective (p.leaves connective) = .ok p := by
  induction p using chain_induction connective with
  | leaf p hp => rw [leaves_of_not_isNode hp, chain]
  | node left right _ ihr =>
    obtain ⟨hleft, hright⟩ := leansRight_joined_self.1 h
    obtain ⟨q, qs, hleaves⟩ := List.exists_cons_of_ne_nil (right.leaves_ne_nil connective)
    have hrest := ihr hright
    rw [hleaves, chain_cons hconnective] at hrest
    rw [leaves_joined_self, leaves_of_not_isNode hleft, hleaves, List.singleton_append,
      chain_cons hconnective, chainFrom, Except.ok.inj hrest]

section Joined

variable {ps : List (Predicate α)}

lemma exists_chain (hconnective : connective ≠ .not) (hne : ps ≠ []) :
    ∃ q, chain connective ps = .ok q ∧
      q.leaves connective = ps.flatMap fun p => p.leaves connective := by
  obtain ⟨p, ps, rfl⟩ := List.exists_cons_of_ne_nil hne
  exact ⟨_, chain_cons hconnective p ps, leaves_chainFrom p ps⟩

lemma flatMap_leaves_of_not_isNode (h : ∀ p ∈ ps, ¬IsNode connective p) :
    (ps.flatMap fun p => p.leaves connective) = ps := by
  have hleaves : ∀ p ∈ ps, p.leaves connective = [p] := fun p hp => leaves_of_not_isNode (h p hp)
  rw [List.flatMap_congr hleaves, ← List.map_eq_flatMap, List.map_id']

/-- A node among the predicates makes more leaves than there are predicates. -/
lemma not_isNode_of_length_le
    (h : (ps.flatMap fun p => p.leaves connective).length ≤ ps.length) :
    ∀ p ∈ ps, ¬IsNode connective p := by
  have hpos : ∀ p : Predicate α, 0 < (p.leaves connective).length :=
    fun p => List.length_pos_iff.2 (p.leaves_ne_nil connective)
  have hlength : ∀ qs : List (Predicate α),
      qs.length ≤ (qs.flatMap fun p => p.leaves connective).length := by
    intro qs
    induction qs with
    | nil => exact Nat.le_refl _
    | cons q qs ih =>
      rw [List.flatMap_cons, List.length_append, List.length_cons]
      have hq := hpos q
      omega
  induction ps with
  | nil => exact fun p hp => absurd hp List.not_mem_nil
  | cons p ps ih =>
    rw [List.flatMap_cons, List.length_append, List.length_cons] at h
    have hp := hpos p
    have hps := hlength ps
    refine List.forall_mem_cons.2 ⟨?_, ih (by omega)⟩
    rintro ⟨left, right, rfl⟩
    rw [leaves_joined_self, List.length_append] at h
    have hleft := hpos left
    have hright := hpos right
    omega

lemma chain_not_eq_ok_iff {q : Predicate α} : chain .not ps = .ok q ↔ ps = [q] := by
  match ps with
  | [] => simp [chain]
  | [p] => simp [chain]
  | p :: p' :: ps => simp [chain]

end Joined

section Truth

variable {holds : Predicate α → Bool}

lemma isMeaningful_eq_all_leaves (hconnective : connective ≠ .not) (p : Predicate α) :
    p.isMeaningful = (p.leaves connective).all isMeaningful := by
  induction p using chain_induction connective with
  | leaf p hp => rw [leaves_of_not_isNode hp, List.all_cons, List.all_nil, Bool.and_true]
  | node left right ihl ihr =>
    have hjoins : (connective != .not) = true := bne_iff_ne.2 hconnective
    rw [isMeaningful, hjoins, Bool.true_and, leaves_joined_self, List.all_append, ihl, ihr]

lemma truth?_eq_joins (hconnective : connective ≠ .not) {p : Predicate α}
    (hp : p.isMeaningful = true) :
    p.truth? holds = some (joins connective
      ((p.leaves connective).map fun leaf => (leaf.truth? holds).getD false)) := by
  rw [isMeaningful_eq_all_leaves hconnective, List.all_eq_true] at hp
  apply truth?_of_leaves hconnective
  rw [List.forall₂_map_right_iff, List.forall₂_same]
  intro leaf hleaf
  have hsome : (leaf.truth? holds).isSome = true := by rw [isSome_truth?, hp leaf hleaf]
  obtain ⟨b, hb⟩ := Option.isSome_iff_exists.1 hsome
  rw [hb, Option.getD_some]

/-- The truth of a predicate depends on its leaves alone. -/
theorem truth?_congr_leaves (hconnective : connective ≠ .not) {p q : Predicate α}
    (h : q.leaves connective = p.leaves connective) : q.truth? holds = p.truth? holds := by
  have hmeaningful : q.isMeaningful = p.isMeaningful := by
    rw [isMeaningful_eq_all_leaves hconnective q, h, ← isMeaningful_eq_all_leaves hconnective p]
  by_cases hp : p.isMeaningful = true
  · rw [truth?_eq_joins hconnective hp, truth?_eq_joins hconnective (hmeaningful.trans hp), h]
  · have hnone : ∀ r : Predicate α, r.isMeaningful = p.isMeaningful → r.truth? holds = none := by
      intro r hr
      rw [← Option.not_isSome_iff_eq_none, isSome_truth?, hr]
      exact hp
    rw [hnone q hmeaningful, hnone p rfl]

end Truth

/-! ### Joining the leaves of a predicate, and the leaves of joined predicates -/

/-- Joining the leaves of a filter by `and` or `or` makes the chain with these leaves that leans to
the right. Joining the leaves of that changes nothing, and it is the filter itself, or alike to it,
exactly if no node of the chain at the root has a node of the chain on its left. Under every
valuation it is as true as the filter, which has a truth value unless it has a node that joins by
`not`. -/
theorem chain_leaves_normalForm (hconnective : connective ≠ .not) (p : Filter) :
    ∃ q : Filter, chain connective (p.leaves connective) = .ok q ∧
      LeansRight connective q ∧
      q.leaves connective = p.leaves connective ∧
      chain connective (q.leaves connective) = .ok q ∧
      (q = p ↔ LeansRight connective p) ∧
      (Filter.isAlike q p = true ↔ LeansRight connective p) ∧
      ∀ holds : Filter → Bool,
        q.truth? holds = p.truth? holds ∧ (p.truth? holds).isSome = p.isMeaningful := by
  obtain ⟨first, rest, hleaves⟩ := List.exists_cons_of_ne_nil (p.leaves_ne_nil connective)
  have hnodes : ∀ leaf ∈ first :: rest, ¬IsNode connective leaf := by
    rw [← hleaves]
    exact fun leaf => not_isNode_of_mem_leaves
  have hchain : chain connective (p.leaves connective) = .ok (chainFrom connective first rest) := by
    rw [hleaves, chain_cons hconnective]
  have hleans : LeansRight connective (chainFrom connective first rest) :=
    leansRight_chainFrom hnodes
  have hsame : (chainFrom connective first rest).leaves connective = p.leaves connective := by
    rw [leaves_chainFrom, flatMap_leaves_of_not_isNode hnodes, hleaves]
  generalize chainFrom connective first rest = q at hchain hleans hsame
  have heq : LeansRight connective p → q = p := by
    intro hp
    rw [chain_leaves_of_leansRight hconnective hp] at hchain
    exact (Except.ok.inj hchain).symm
  refine ⟨q, hchain, hleans, hsame, hsame ▸ hchain, ⟨?_, heq⟩, ⟨?_, ?_⟩, fun holds => ?_⟩
  · rintro rfl
    exact hleans
  · -- how a filter leans does not depend on how its numbers are written
    intro halike
    rw [← leansRight_map, ← Filter.isAlike_iff.1 halike, leansRight_map]
    exact hleans
  · intro hp
    rw [heq hp, Filter.isAlike_iff]
  · exact ⟨truth?_congr_leaves hconnective hsame, isSome_truth? holds p⟩

/-- A chain that leans to the left at its root and again below, with a negated chain and a chain of
the other connective among its leaves. -/
def leftLeaning : Filter :=
  .joined .and
    (.joined .and (.comparison "Age" .greater (.single (.integer 30)))
      (.joined .and
        (.joined .and (.comparison "Age" .less (.single (.integer 40)))
          (.comparison "Name" .equal (.single (.string "a and b"))))
        (.negation (.joined .and (.comparison "A" .equal (.single .null))
          (.comparison "B" .equal (.single .null))))))
    (.joined .or (.comparison "C" .oneOf (.list [])) (.comparison "D" .equal (.single .null)))

theorem chain_leaves_normalForm_leftLeaning :
    Connective.and ≠ .not ∧ ¬LeansRight .and leftLeaning ∧
      ∃ q : Filter, chain .and (leftLeaning.leaves .and) = .ok q ∧
        LeansRight .and q ∧
        q.leaves .and = leftLeaning.leaves .and ∧
        chain .and (q.leaves .and) = .ok q ∧
        (q = leftLeaning ↔ LeansRight .and leftLeaning) ∧
        (Filter.isAlike q leftLeaning = true ↔ LeansRight .and leftLeaning) ∧
        ∀ holds : Filter → Bool, q.truth? holds = leftLeaning.truth? holds ∧
          (leftLeaning.truth? holds).isSome = leftLeaning.isMeaningful := by
  have hleans : ¬LeansRight .and leftLeaning :=
    fun h => (leansRight_joined_self.1 h).1 ⟨_, _, rfl⟩
  exact ⟨by decide, hleans, chain_leaves_normalForm (by decide) leftLeaning⟩

/-- Predicates joined by `and` or `or` have the leaves of each in turn, which are the predicates
themselves, or alike to them, exactly if none of them is a node of the chain. No leaf is a node of
its chain. By `not` only a lone predicate is joined, and it stays as it is. -/
theorem leaves_chain_flatten (hconnective : connective ≠ .not) :
    (∀ ps : List Filter, ps ≠ [] → ∃ q, chain connective ps = .ok q ∧
      q.leaves connective = (ps.flatMap fun p => p.leaves connective) ∧
      (q.leaves connective = ps ↔ ∀ p ∈ ps, ¬IsNode connective p) ∧
      (List.Forall₂ (fun leaf p => Filter.isAlike leaf p = true) (q.leaves connective) ps ↔
        ∀ p ∈ ps, ¬IsNode connective p)) ∧
    (∀ p : Filter, ∀ leaf ∈ p.leaves connective, ¬IsNode connective leaf) ∧
    ∀ (ps : List Filter) (q : Filter), chain .not ps = .ok q ↔ ps = [q] := by
  refine ⟨fun ps hne => ?_, fun p leaf => not_isNode_of_mem_leaves, fun ps q => chain_not_eq_ok_iff⟩
  obtain ⟨q, hq, hleaves⟩ := exists_chain hconnective hne
  refine ⟨q, hq, hleaves, ?_⟩
  rw [hleaves]
  constructor
  · constructor
    · intro h
      exact not_isNode_of_length_le (Nat.le_of_eq (congrArg List.length h))
    · exact flatMap_leaves_of_not_isNode
  · constructor
    · intro h
      exact not_isNode_of_length_le (Nat.le_of_eq h.length_eq)
    · intro h
      rw [flatMap_leaves_of_not_isNode h, List.forall₂_same]
      exact fun p _ => Filter.isAlike_iff.2 rfl

theorem leaves_chain_flatten_leftLeaning :
    (Connective.and ≠ .not ∧ [leftLeaning, .negation leftLeaning] ≠ [] ∧
      .negation (.joined .and (.comparison "A" .equal (.single .null))
        (.comparison "B" .equal (.single .null))) ∈ leftLeaning.leaves .and) ∧
    (∃ q, chain .and [leftLeaning, .negation leftLeaning] = .ok q ∧
      q.leaves .and = leftLeaning.leaves .and ++ [.negation leftLeaning] ∧
      q.leaves .and ≠ [leftLeaning, .negation leftLeaning]) ∧
    ¬IsNode .and (.negation (.joined .and (.comparison "A" .equal (.single .null))
      (.comparison "B" .equal (.single .null))) : Filter) ∧
    chain .not [leftLeaning] = .ok leftLeaning := by
  obtain ⟨hjoined, hleaf, hnot⟩ := @leaves_chain_flatten .and (by decide)
  have hne : [leftLeaning, .negation leftLeaning] ≠ [] := List.cons_ne_nil _ _
  have hmem : .negation (.joined .and (.comparison "A" .equal (.single .null))
      (.comparison "B" .equal (.single .null))) ∈ leftLeaning.leaves .and := by
    decide +kernel
  obtain ⟨q, hq, hleaves, hself, -⟩ := hjoined _ hne
  refine ⟨⟨by decide, hne, hmem⟩, ⟨q, hq, hleaves, fun h => ?_⟩, hleaf _ _ hmem, (hnot _ _).2 rfl⟩
  exact hself.1 h leftLeaning List.mem_cons_self ⟨_, _, rfl⟩

end RecordFilter.Proofs

import ChromiumIos.Lib.Positions

/-!
# Vectors of bookmark nodes

`IsSubvectorOfNodes` and `MissingNodesIndices` of `bookmark_utils_ios.mm`. Both go through the
vectors once and take the first match there is.

- `isSubvectorOfNodes_iff`: the first match is as good as any.
- `missingNodes_spec`: what is missing, removed from the longer vector or inserted in the
  shorter one, leads from one to the other.
-/

namespace ChromiumIos

open Lib List

namespace BookmarkUtils

variable {Node : Type} [DecidableEq Node]

/-- The loop over `vector1`; `it` is what is left of `vector2`. -/
def isSubvectorFrom : List Node → (it : List Node) → Bool
  | [], _ => true
  | node :: vector1, it =>
    match it.dropWhile (· ≠ node) with
    | [] => false
    | _ :: it => isSubvectorFrom vector1 it

def isSubvectorOfNodes (vector1 vector2 : List Node) : Bool := isSubvectorFrom vector1 vector2

/-- The loop over `vector2`; `it1` is what is left of `vector1`. -/
def missingNodesFrom (i2 : Nat) : (it1 : List Node) → List Node → List Nat
  | _, [] => []
  | [], _ :: vector2 => i2 :: missingNodesFrom (i2 + 1) [] vector2
  | node1 :: it1, node2 :: vector2 =>
    if node2 ≠ node1 then i2 :: missingNodesFrom (i2 + 1) (node1 :: it1) vector2
    else missingNodesFrom (i2 + 1) it1 vector2

def missingNodesIndices (vector1 vector2 : List Node) : List Nat :=
  missingNodesFrom 0 vector1 vector2

/-! ## The first match -/

/-- A node is matched behind the nodes that differ from it. -/
theorem isSubvectorFrom_cons {node : Node} {vector1 it : List Node} :
    isSubvectorFrom (node :: vector1) it = true ↔
      ∃ before later, it = before ++ node :: later ∧ node ∉ before ∧
        isSubvectorFrom vector1 later = true := by
  induction it with
  | nil => simp [isSubvectorFrom]
  | cons head it ih =>
    by_cases hhead : head = node
    · subst hhead
      rw [isSubvectorFrom, dropWhile_cons_of_neg (by simp)]
      constructor
      · intro h
        exact ⟨[], it, rfl, not_mem_nil, h⟩
      · rintro ⟨before, later, heq, hnot, h⟩
        cases before with
        | nil => rwa [(cons.inj heq).2]
        | cons b before =>
          exact absurd ((cons.inj heq).1 ▸ mem_cons_self) hnot
    · have hskip : isSubvectorFrom (node :: vector1) (head :: it) =
          isSubvectorFrom (node :: vector1) it := by
        rw [isSubvectorFrom, isSubvectorFrom, dropWhile_cons_of_pos (by simpa using hhead)]
      rw [hskip, ih]
      constructor
      · rintro ⟨before, later, rfl, hnot, h⟩
        exact ⟨head :: before, later, rfl, by simp [Ne.symm hhead, hnot], h⟩
      · rintro ⟨before, later, heq, hnot, h⟩
        cases before with
        | nil => exact absurd (cons.inj heq).1 hhead
        | cons b before =>
          exact ⟨before, later, (cons.inj heq).2, fun hmem => hnot (.tail _ hmem), h⟩

omit [DecidableEq Node] in
/-- A subsequence of which the first node is not there is one of what is behind. -/
theorem sublist_behind {node : Node} {vector1 before later : List Node} (hnot : node ∉ before)
    (h : (node :: vector1).Sublist (before ++ node :: later)) : vector1.Sublist later := by
  induction before with
  | nil => exact cons_sublist_cons.1 h
  | cons b before ih =>
    obtain ⟨hb, hbefore⟩ : node ≠ b ∧ node ∉ before := by simpa using hnot
    cases h with
    | cons _ h => exact ih hbefore h
    | cons_cons _ _ => exact absurd rfl hb

theorem isSubvectorFrom_iff {vector1 vector2 : List Node} :
    isSubvectorFrom vector1 vector2 = true ↔ vector1.Sublist vector2 := by
  induction vector1 generalizing vector2 with
  | nil => simp [isSubvectorFrom]
  | cons node vector1 ih =>
    rw [isSubvectorFrom_cons]
    constructor
    · rintro ⟨before, later, rfl, -, h⟩
      exact ((ih.1 h).cons_cons node).trans (sublist_append_right before _)
    · intro h
      -- whatever the match of the first node is, the rest is found behind its first occurrence
      obtain ⟨before, later, rfl, hnot⟩ :=
        eq_append_cons_of_mem (h.subset mem_cons_self)
      exact ⟨before, later, rfl, hnot, ih.2 (sublist_behind hnot h)⟩

/-! ## What is missing -/

/-- One round of the loop: the first node of `vector2` is missing, or the next one of `vector1`. -/
theorem missingNodesFrom_cons {it1 vector2 : List Node} {node2 : Node}
    (h : it1.Sublist (node2 :: vector2)) (i2 : Nat) :
    (missingNodesFrom i2 it1 (node2 :: vector2) = i2 :: missingNodesFrom (i2 + 1) it1 vector2 ∧
        it1.Sublist vector2) ∨
      ∃ rest, it1 = node2 :: rest ∧
        missingNodesFrom i2 it1 (node2 :: vector2) = missingNodesFrom (i2 + 1) rest vector2 ∧
        rest.Sublist vector2 := by
  cases it1 with
  | nil => exact .inl ⟨rfl, nil_sublist _⟩
  | cons node1 it1 =>
    by_cases heq : node2 = node1
    · subst heq
      exact .inr ⟨it1, rfl, by simp [missingNodesFrom], cons_sublist_cons.1 h⟩
    · refine .inl ⟨by simp [missingNodesFrom, heq], ?_⟩
      cases h with
      | cons _ h => exact h
      | cons_cons _ _ => exact absurd rfl heq

/-- The positions ascend from `i2` on. -/
theorem missingNodesFrom_ascending {it1 vector2 : List Node} (h : it1.Sublist vector2) (i2 : Nat) :
    (∀ i ∈ missingNodesFrom i2 it1 vector2, i2 ≤ i) ∧
      (missingNodesFrom i2 it1 vector2).Pairwise (· < ·) := by
  induction vector2 generalizing it1 i2 with
  | nil => simp [missingNodesFrom]
  | cons node2 vector2 ih =>
    rcases missingNodesFrom_cons h i2 with ⟨heq, hrest⟩ | ⟨rest, rfl, heq, hrest⟩
    · obtain ⟨hle, hascending⟩ := ih hrest (i2 + 1)
      rw [heq]
      refine ⟨fun i hi => ?_, hascending.cons fun i hi => hle i hi⟩
      rcases mem_cons.1 hi with rfl | hi
      · exact Nat.le_refl _
      · exact Nat.le_of_succ_le (hle i hi)
    · obtain ⟨hle, hascending⟩ := ih hrest (i2 + 1)
      rw [heq]
      exact ⟨fun i hi => Nat.le_of_succ_le (hle i hi), hascending⟩

/-- What is missing is taken out, the last one first. -/
theorem removeAt_missingNodesFrom {it1 vector2 : List Node} (h : it1.Sublist vector2)
    (before : List Node) :
    (missingNodesFrom before.length it1 vector2).reverse.foldlM removeAt (before ++ vector2) =
      some (before ++ it1) := by
  rw [foldlM_reverse]
  induction vector2 generalizing it1 before with
  | nil =>
    rw [sublist_nil.1 h]
    rfl
  | cons node2 vector2 ih =>
    have hlength : (before ++ [node2]).length = before.length + 1 := length_append
    rcases missingNodesFrom_cons h before.length with ⟨heq, hrest⟩ | ⟨rest, rfl, heq, hrest⟩
    · have hlater := ih hrest (before ++ [node2])
      rw [hlength, append_assoc, append_assoc] at hlater
      rw [heq, foldrM_cons]
      exact (congrArg (Option.bind · _) hlater).trans (removeAt_length ..)
    · have hlater := ih hrest (before ++ [node2])
      rw [hlength, append_assoc, append_assoc] at hlater
      rw [heq]
      exact hlater

/-- What is missing is put in, the first one first. -/
theorem insertAt_missingNodesFrom {it1 vector2 : List Node} (h : it1.Sublist vector2)
    (before : List Node) {whole : List Node} (hwhole : whole = before ++ vector2) :
    (missingNodesFrom before.length it1 vector2).foldlM
      (fun nodes i => whole[i]?.bind (insertAt nodes i)) (before ++ it1) = some whole := by
  induction vector2 generalizing it1 before with
  | nil =>
    rw [sublist_nil.1 h, hwhole]
    rfl
  | cons node2 vector2 ih =>
    have hlength : (before ++ [node2]).length = before.length + 1 := length_append
    have hwhole' : whole = (before ++ [node2]) ++ vector2 := by rw [hwhole, append_cons]
    rcases missingNodesFrom_cons h before.length with ⟨heq, hrest⟩ | ⟨rest, rfl, heq, hrest⟩
    · have hlater := ih hrest (before ++ [node2]) hwhole'
      have hnode2 : whole[before.length]? = some node2 := by
        rw [hwhole, getElem?_append_right (Nat.le_refl _), Nat.sub_self]
        rfl
      rw [hlength, append_assoc] at hlater
      rw [heq, foldlM_cons, hnode2]
      exact (congrArg (Option.bind · _) (insertAt_length before it1 node2)).trans hlater
    · have hlater := ih hrest (before ++ [node2]) hwhole'
      rw [hlength, append_assoc] at hlater
      rw [heq]
      exact hlater

/-- `IsSubvectorOfNodes` tells the subsequences, and then what `MissingNodesIndices` returns is the
difference of the vectors. -/
theorem missingNodes_spec (vector1 vector2 : List Node) :
    (isSubvectorOfNodes vector1 vector2 = true ↔ vector1.Sublist vector2) ∧
      (isSubvectorOfNodes vector1 vector2 = true →
        (missingNodesIndices vector1 vector2).Pairwise (· < ·) ∧
        (missingNodesIndices vector1 vector2).reverse.foldlM removeAt vector2 = some vector1 ∧
        (missingNodesIndices vector1 vector2).foldlM
          (fun nodes i => vector2[i]?.bind (insertAt nodes i)) vector1 = some vector2) := by
  refine ⟨isSubvectorFrom_iff, fun h => ?_⟩
  have hsub := isSubvectorFrom_iff.1 h
  refine ⟨(missingNodesFrom_ascending hsub 0).2, ?_, ?_⟩
  · exact removeAt_missingNodesFrom hsub []
  · exact insertAt_missingNodesFrom hsub [] rfl

/-- A node that is repeated is matched where it occurs first. -/
theorem missingNodes_repeated :
    (isSubvectorOfNodes [2, 3] [1, 2, 2, 3] = true ↔ [2, 3].Sublist [1, 2, 2, 3]) ∧
      missingNodesIndices [2, 3] [1, 2, 2, 3] = [0, 2] ∧
      [0, 2].reverse.foldlM removeAt [1, 2, 2, 3] = some [2, 3] :=
  ⟨(missingNodes_spec [2, 3] [1, 2, 2, 3]).1, by decide,
    ((missingNodes_spec [2, 3] [1, 2, 2, 3]).2 (by decide)).2.1⟩

end BookmarkUtils

end ChromiumIos

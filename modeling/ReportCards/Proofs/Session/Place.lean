import ReportCards.Proofs.Document.Forest
import ReportCards.Session.State

namespace ReportCards

/-! ## Ways down -/

namespace Document

variable {κ : Type} {doc : Document κ} {n p : NodeId}

def child? (doc : Document κ) (n : NodeId) (index : Nat) : Option NodeId :=
  (doc.children n)[index]?

def follow (doc : Document κ) (n : NodeId) (way : List Nat) : Option NodeId :=
  way.foldlM doc.child? n

theorem follow_concat (doc : Document κ) (n : NodeId) (way : List Nat) (index : Nat) :
    doc.follow n (way ++ [index]) = (doc.follow n way).bind (doc.child? · index) := by
  rw [follow, List.foldlM_append]
  simp [follow]

def root (doc : Document κ) (n : NodeId) : NodeId :=
  (doc.path n).getLast?.getD n

namespace IsForest

theorem root_of_parent (forest : doc.IsForest) (link : doc.parent n = some p) :
    doc.root n = doc.root p := by
  rw [root, root, forest.path_of_parent link, path, List.getLast?_cons_cons,
    List.getLast?_eq_some_getLast (List.cons_ne_nil _ _)]
  rfl

theorem positions_of_parent (forest : doc.IsForest) (link : doc.parent n = some p) :
    Session.positions doc (doc.path n) =
      Session.positions doc (doc.path p) ++ [(doc.children p).idxOf n] := by
  rw [forest.path_of_parent link, path, Session.positions]

theorem follow_positions (forest : doc.IsForest) (n : NodeId) :
    doc.follow (doc.root n) (Session.positions doc (doc.path n)) = some n := by
  induction n using forest.upward_induction with
  | step n ih =>
      cases link : doc.parent n with
      | none =>
          rw [root, path, forest.ancestors_of_root link]
          rfl
      | some p =>
          have child := (forest.mem_children_iff p n).2 link
          rw [forest.root_of_parent link, forest.positions_of_parent link, follow_concat, ih p link]
          exact List.getElem?_idxOf child

end IsForest
end Document

/-! ## Places -/

namespace Session

variable {κ : Type} {doc : Document κ} {session : Session} {a b : NodeId}

def written (way : List Nat) : List Char :=
  way.flatMap fun index => '/' :: Decimal.digits index

theorem toList_place (session : Session) (doc : Document κ) (n : NodeId) :
    (session.place doc n).toList =
      (session.nameOf (doc.root n)).toList ++ written (positions doc (doc.path n)) := by
  have along (way : List Nat) (start : String) :
      (way.foldl (fun place index => place ++ "/" ++ Decimal.ofNat index) start).toList =
        start.toList ++ written way := by
    induction way generalizing start with
    | nil => simp [written]
    | cons index way ih =>
        rw [List.foldl_cons, ih]
        simp [written, Decimal.ofNat]
  exact along _ _

theorem slash_not_mem_digits (n : Nat) : '/' ∉ Decimal.digits n := by
  intro member
  have isDigit := Nat.isDigit_of_mem_toDigits (by decide) (by decide) member
  cases isDigit

/-- What is in front of the first slash and what follows can be told apart. -/
theorem written_parts {front front' : List Char} {way way' : List Nat} (plain : '/' ∉ front)
    (plain' : '/' ∉ front') (same : front ++ written way = front' ++ written way') :
    front = front' ∧ written way = written way' := by
  have parts {front : List Char} (plain : '/' ∉ front) (way : List Nat) :
      (front ++ written way).takeWhile (· ≠ '/') = front := by
    have pass : ∀ c ∈ front, decide (c ≠ '/') = true :=
      fun c member => decide_eq_true fun slash => plain (slash ▸ member)
    have ends : (written way).takeWhile (· ≠ '/') = [] := by cases way <;> rfl
    rw [List.takeWhile_append_of_pos pass, ends, List.append_nil]
  have fronts : front = front' := by rw [← parts plain way, same, parts plain' way']
  subst fronts
  exact ⟨rfl, List.append_cancel_left same⟩

theorem written_injective {way way' : List Nat} (same : written way = written way') : way = way' := by
  induction way generalizing way' with
  | nil =>
      cases way' with
      | nil => rfl
      | cons => cases same
  | cons index way ih =>
      cases way' with
      | nil => cases same
      | cons index' way' =>
          obtain ⟨digits, rest⟩ := written_parts (slash_not_mem_digits index)
            (slash_not_mem_digits index') (List.tail_eq_of_cons_eq same)
          have numbers := congrArg Decimal.natOfDigits? digits
          rw [Decimal.natOfDigits?_digits, Decimal.natOfDigits?_digits] at numbers
          rw [Option.some.inj numbers, ih rest]

theorem eq_of_positions (forest : doc.IsForest) (roots : doc.root a = doc.root b)
    (same : positions doc (doc.path a) = positions doc (doc.path b)) : a = b := by
  have toA := forest.follow_positions a
  rw [roots, same, forest.follow_positions b] at toA
  exact (Option.some.inj toA).symm

/-- A place tells its node from all others, if the names of roots have no slash and tell the roots
apart. Below one root it does so in any case. -/
theorem place_eq_iff (forest : doc.IsForest)
    (apart : doc.root a = doc.root b ∨ '/' ∉ (session.nameOf (doc.root a)).toList ∧
      '/' ∉ (session.nameOf (doc.root b)).toList ∧
      session.nameOf (doc.root a) ≠ session.nameOf (doc.root b)) :
    session.place doc a = session.place doc b ↔ a = b := by
  refine ⟨fun same => ?_, fun same => same ▸ rfl⟩
  have texts := congrArg String.toList same
  rw [toList_place, toList_place] at texts
  rcases apart with roots | ⟨plain, plain', different⟩
  · rw [roots] at texts
    exact eq_of_positions forest roots (written_injective (List.append_cancel_left texts))
  · exact absurd (String.toList_inj.1 (written_parts plain plain' texts).1) different

end Session
end ReportCards

namespace ReportCards.Text

def splitOn (isCut : Char → Bool) : List Char → List (List Char)
  | [] => [[]]
  | c :: rest =>
      if isCut c then [] :: splitOn isCut rest
      else
        match splitOn isCut rest with
        | [] => [[c]]
        | piece :: pieces => (c :: piece) :: pieces

def splitOnce (mark : Char) : List Char → Option (List Char × List Char)
  | [] => none
  | c :: rest =>
      if c = mark then some ([], rest)
      else (splitOnce mark rest).map fun (before, after) => (c :: before, after)

def dropStart? : (pre text : List Char) → Option (List Char)
  | [], text => some text
  | _ :: _, [] => none
  | p :: pre, c :: text => if p = c then dropStart? pre text else none

theorem splitOn_ne_nil (isCut : Char → Bool) (text : List Char) : splitOn isCut text ≠ [] := by
  cases text with
  | nil => simp [splitOn]
  | cons c rest =>
      unfold splitOn
      split
      · simp
      · split <;> simp

theorem dropStart?_eq_some_iff {pre text rest : List Char} :
    dropStart? pre text = some rest ↔ text = pre ++ rest := by
  induction pre generalizing text with
  | nil => simp [dropStart?]
  | cons p pre ih =>
      cases text with
      | nil => simp [dropStart?]
      | cons c text =>
          unfold dropStart?
          split
          · simp_all
          · simp_all [eq_comm]

theorem splitOnce_eq_some {mark : Char} {text before after : List Char}
    (found : splitOnce mark text = some (before, after)) :
    text = before ++ mark :: after ∧ mark ∉ before := by
  induction text generalizing before with
  | nil => simp [splitOnce] at found
  | cons c rest ih =>
      unfold splitOnce at found
      split at found
      · simp_all
      · obtain ⟨⟨first, second⟩, inner, equal⟩ := Option.map_eq_some_iff.1 found
        simp only [Prod.mk.injEq] at equal
        obtain ⟨rfl, rfl⟩ := equal
        have := ih inner
        simp_all [eq_comm]

theorem length_lt_of_splitOnce {mark : Char} {text before after : List Char}
    (found : splitOnce mark text = some (before, after)) : after.length < text.length := by
  have whole := (splitOnce_eq_some found).1
  subst whole
  simp only [List.length_append, List.length_cons]
  omega

end ReportCards.Text

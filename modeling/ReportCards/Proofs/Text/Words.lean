import ReportCards.Text.Blank

namespace ReportCards.Text

def IsWord (word : List Char) : Prop :=
  word ≠ [] ∧ ∀ c ∈ word, isBlank c = false

theorem splitOnce_append {mark : Char} {before : List Char} (outside : mark ∉ before)
    (after : List Char) : splitOnce mark (before ++ mark :: after) = some (before, after) := by
  induction before with
  | nil => simp [splitOnce]
  | cons c before ih =>
      obtain ⟨different, outside⟩ := not_or.1 (mt List.mem_cons.2 outside)
      simp [splitOnce, Ne.symm different, ih outside]

theorem splitOnce_eq_none_iff {mark : Char} {text : List Char} :
    splitOnce mark text = none ↔ mark ∉ text := by
  induction text with
  | nil => simp [splitOnce]
  | cons c rest ih =>
      by_cases same : c = mark
      · simp [splitOnce, same]
      · simp [splitOnce, same, Ne.symm same, ih]

theorem splitOn_eq_singleton {isCut : Char → Bool} {piece : List Char}
    (whole : ∀ c ∈ piece, isCut c = false) : splitOn isCut piece = [piece] := by
  induction piece with
  | nil => rfl
  | cons c piece ih =>
      rw [splitOn, ih fun d member => whole d (List.mem_cons_of_mem c member)]
      simp [whole c List.mem_cons_self]

theorem splitOn_append_cons {isCut : Char → Bool} {piece : List Char}
    (whole : ∀ c ∈ piece, isCut c = false) {cut : Char} (isCut_cut : isCut cut = true)
    (rest : List Char) : splitOn isCut (piece ++ cut :: rest) = piece :: splitOn isCut rest := by
  induction piece with
  | nil => simp [splitOn, isCut_cut]
  | cons c piece ih =>
      rw [List.cons_append, splitOn, ih fun d member => whole d (List.mem_cons_of_mem c member)]
      simp [whole c List.mem_cons_self]

theorem of_mem_splitOn {isCut : Char → Bool} {text piece : List Char}
    (member : piece ∈ splitOn isCut text) : ∀ c ∈ piece, c ∈ text ∧ isCut c = false := by
  induction text generalizing piece with
  | nil =>
      rw [splitOn, List.mem_singleton] at member
      subst member
      intro c inside
      cases inside
  | cons d rest ih =>
      have further {piece : List Char} (member : piece ∈ splitOn isCut rest) :
          ∀ c ∈ piece, c ∈ d :: rest ∧ isCut c = false := fun c inside =>
        ⟨List.mem_cons_of_mem d (ih member c inside).1, (ih member c inside).2⟩
      unfold splitOn at member
      split at member
      · rcases List.mem_cons.1 member with rfl | later
        · intro c inside; cases inside
        · exact further later
      · rename_i keep
        split at member
        · exact absurd ‹_› (splitOn_ne_nil isCut rest)
        · rename_i first pieces cut
          rw [cut] at further
          rcases List.mem_cons.1 member with rfl | later
          · intro c inside
            rcases List.mem_cons.1 inside with rfl | inside
            · exact ⟨List.mem_cons_self, by simpa using keep⟩
            · exact further List.mem_cons_self c inside
          · exact further (List.mem_cons_of_mem _ later)

theorem isWord_of_mem_words {text word : List Char} (member : word ∈ words text) : IsWord word := by
  obtain ⟨piece, nonempty⟩ := List.mem_filter.1 member
  exact ⟨by simpa using nonempty, fun c inside => (of_mem_splitOn piece c inside).2⟩

theorem subset_of_mem_words {text word : List Char} (member : word ∈ words text) : word ⊆ text :=
  fun c inside => (of_mem_splitOn (List.mem_filter.1 member).1 c inside).1

theorem mem_intercalate {sep : Char} {pieces : List (List Char)} {c : Char}
    (member : c ∈ [sep].intercalate pieces) : c = sep ∨ ∃ piece ∈ pieces, c ∈ piece := by
  induction pieces with
  | nil => cases member
  | cons first rest ih =>
      cases rest with
      | nil =>
          rw [List.intercalate_singleton] at member
          exact .inr ⟨first, List.mem_singleton_self first, member⟩
      | cons second rest =>
          rw [List.intercalate_cons_cons, List.mem_append, List.mem_append, List.mem_singleton] at member
          rcases member with (inFirst | isSep) | later
          · exact .inr ⟨first, List.mem_cons_self, inFirst⟩
          · exact .inl isSep
          · rcases ih later with isSep | ⟨piece, isPiece, inside⟩
            · exact .inl isSep
            · exact .inr ⟨piece, List.mem_cons_of_mem _ isPiece, inside⟩

theorem words_intercalate {pieces : List (List Char)} (isWord : ∀ piece ∈ pieces, IsWord piece) :
    words ([' '].intercalate pieces) = pieces := by
  induction pieces with
  | nil => simp [words, splitOn]
  | cons first rest ih =>
      obtain ⟨nonempty, whole⟩ := isWord first List.mem_cons_self
      cases rest with
      | nil => simp [words, splitOn_eq_singleton whole, nonempty]
      | cons second rest =>
          have rest_eq := ih fun piece member => isWord piece (List.mem_cons_of_mem first member)
          unfold words at rest_eq ⊢
          rw [List.intercalate_cons_cons, List.append_assoc, List.singleton_append,
            splitOn_append_cons whole rfl,
            List.filter_cons_of_pos (by simpa using nonempty), rest_eq]

/-! ## Trimming -/

theorem isBlank_head_dropWhile (text : List Char) :
    ∀ c ∈ (text.dropWhile isBlank).head?, isBlank c = false := by
  intro c first
  have stopped := List.head?_dropWhile_not isBlank text
  rw [first] at stopped
  exact stopped

theorem isBlank_getLast_trim (text : List Char) :
    ∀ c ∈ (trim text).getLast?, isBlank c = false := by
  rw [trim, trimEnd, List.getLast?_reverse]
  exact isBlank_head_dropWhile _

theorem trimEnd_prefix (text : List Char) : trimEnd text <+: text := by
  have suffix := List.dropWhile_suffix isBlank (l := text.reverse)
  rwa [← List.reverse_prefix, List.reverse_reverse] at suffix

theorem isBlank_head_trim (text : List Char) : ∀ c ∈ (trim text).head?, isBlank c = false := by
  intro c first
  obtain ⟨blanks, whole⟩ := trimEnd_prefix (trimStart text)
  refine isBlank_head_dropWhile text c ?_
  rw [← trimStart, ← whole, List.head?_append, ← trim, first]
  rfl

/-! ## Letters -/

theorem isUpper_iff {c : Char} : c.isUpper = true ↔ 65 ≤ c.toNat ∧ c.toNat ≤ 90 := by
  unfold Char.isUpper
  simp [UInt32.le_iff_toNat_le]

theorem isLower_iff {c : Char} : c.isLower = true ↔ 97 ≤ c.toNat ∧ c.toNat ≤ 122 := by
  unfold Char.isLower
  simp [UInt32.le_iff_toNat_le]

theorem toNat_toLower (c : Char) :
    c.toLower.toNat = if 65 ≤ c.toNat ∧ c.toNat ≤ 90 then c.toNat + 32 else c.toNat := by
  unfold Char.toLower
  simp only [UInt32.le_iff_toNat_le, ge_iff_le, Char.toNat_val, Char.reduceVal, UInt32.reduceToNat]
  split
  · have sum : (c.val + (97 - 65)).toNat = c.toNat + 32 := by
      simp only [UInt32.toNat_add, UInt32.reduceSub, UInt32.reduceToNat, Char.toNat_val]
      omega
    exact sum
  · rfl

theorem toNat_toUpper (c : Char) :
    c.toUpper.toNat = if 97 ≤ c.toNat ∧ c.toNat ≤ 122 then c.toNat - 32 else c.toNat := by
  unfold Char.toUpper
  simp only [UInt32.le_iff_toNat_le, Char.toNat_val, Char.reduceVal, UInt32.reduceToNat]
  split
  · have sum : (c.val + (65 - 97)).toNat = c.toNat - 32 := by
      simp only [UInt32.toNat_add, UInt32.reduceSub, UInt32.reduceToNat, Char.toNat_val]
      omega
    exact sum
  · rfl

theorem isUpper_toLower (c : Char) : c.toLower.isUpper = false := by
  rw [← Bool.not_eq_true, isUpper_iff, toNat_toLower]
  split <;> omega

theorem toLower_of_cased {c written : Char} (small : c.isUpper = false)
    (cased : written = c ∨ written = c.toUpper) : written.toLower = c := by
  rw [← Bool.not_eq_true, isUpper_iff] at small
  rw [← Char.toNat_inj, toNat_toLower]
  rcases cased with rfl | rfl
  · exact if_neg small
  · rw [toNat_toUpper]
    split
    · rw [if_pos (by omega)]
      omega
    · rfl

theorem toLower_eq_or (c : Char) :
    c.toLower = c ∨ c.isAlphanum = true ∧ c.toLower.isAlphanum = true := by
  have number := toNat_toLower c
  split at number
  · rename_i capital
    have lower : c.toLower.isLower = true := isLower_iff.2 (by omega)
    have upper : c.isUpper = true := isUpper_iff.2 capital
    right
    unfold Char.isAlphanum Char.isAlpha
    simp [lower, upper]
  · exact .inl (Char.toNat_inj.1 number)

end ReportCards.Text

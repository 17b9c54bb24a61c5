import ReportCards.Proofs.Paging.Window

/-!
# Windows on integers

The window, its size and the page after the current one are computed here once more, on integers, where
nothing runs over. Every value that is formed on the way is noted. All of them are words but for one: the
sum of the window's start and the number of handles can be too large. If it is, and only then, the window
that the words give is another one than the integers give: `words_exact_iff`.
-/
namespace ReportCards

/-- A computation on integers, with the values that it has formed, in order. -/
structure Exact (α : Type) where
  result : α
  formed : List Int

structure Span where
  start : Int
  stop : Int
  current : Int
  pageCount : Int
deriving DecidableEq

def Span.placed (sizing : Sizing) (pages index : UInt64) : Span :=
  let current := min index.toNat (pages.toNat - 1)
  let width := min sizing.maxHandles.toNat pages.toNat
  let start := min (current - sizing.side.toNat) (pages.toNat - width)
  { start, stop := start + width, current, pageCount := pages.toNat }

abbrev Survey := Span × Int × Option Int

def Span.survey (span : Span) : Survey :=
  (span, span.stop - span.start,
    if span.current + 1 < span.pageCount then some (span.current + 1) else none)

namespace PageWindow

def survey (window : PageWindow) : Survey :=
  ({ start := window.start.toNat, stop := window.stop.toNat, current := window.current.toNat
     pageCount := window.pageCount.toNat },
    window.size.toNat, window.next.map fun i => (i.toNat : Int))

def sum (sizing : Sizing) (pages index : UInt64) : Nat :=
  min index.toNat (pages.toNat - 1) - sizing.side.toNat + sizing.maxHandles.toNat

theorem sumFits_iff {sizing : Sizing} {pages index : UInt64} :
    SumFits sizing pages index ↔
      pages.toNat ≤ sizing.maxHandles.toNat ∨ sum sizing pages index < UInt64.size := by
  rw [SumFits, UInt64.le_iff_toNat_le, Word.toNat_subtract, ← current_around sizing, toNat_current, sum]

end PageWindow

namespace Exact

instance : Monad Exact where
  pure result := { result, formed := [] }
  bind first next :=
    { result := (next first.result).result
      formed := first.formed ++ (next first.result).formed }

def form (value : Int) : Exact Int :=
  { result := value, formed := [value] }

def subtract (a b : Int) : Exact Int :=
  form (max (a - b) 0)

def side (maxHandles : Int) : Exact Int := do
  let others ← subtract maxHandles 1
  form (others / 2)

def pageCount (pageSize count : Int) : Exact Int :=
  if pageSize = 0 then return 0
  else do
    let whole ← form (count / pageSize)
    let rest ← form (count % pageSize)
    if rest = 0 then return whole else form (whole + 1)

def around (maxHandles pageCount index : Int) : Exact Span := do
  let last ← subtract pageCount 1
  let current := min index last
  if pageCount ≤ maxHandles then return { start := 0, stop := pageCount, current, pageCount }
  else
    let side ← side maxHandles
    let start ← subtract current side
    let stop ← form (start + maxHandles)
    if pageCount < stop then
      let start ← subtract pageCount maxHandles
      return { start, stop := pageCount, current, pageCount }
    else return { start, stop, current, pageCount }

def size (span : Span) : Exact Int :=
  form (span.stop - span.start)

def next (span : Span) : Exact (Option Int) := do
  let following ← form (span.current + 1)
  return if following < span.pageCount then some following else none

def survey (maxHandles pageCount index : Int) : Exact Survey := do
  let span ← around maxHandles pageCount index
  let size ← size span
  let next ← next span
  return (span, size, next)

def surveyOf (pageSize maxHandles count index : Int) : Exact Survey := do
  let pageCount ← pageCount pageSize count
  survey maxHandles pageCount index

/-! ## What is formed -/

variable {α β : Type} {fine : Int → Prop}

/-- The computation ends with the result, and what it forms is fine. -/
structure Yields (fine : Int → Prop) (exact : Exact α) (result : α) : Prop where
  result_eq : exact.result = result
  formed : ∀ value ∈ exact.formed, fine value

theorem Yields.bind {first : Exact α} {next : α → Exact β} {middle : α} {result : β}
    (yields : first.Yields fine middle) (rest : (next middle).Yields fine result) :
    (first >>= next).Yields fine result := by
  obtain ⟨rfl, formed⟩ := yields
  refine ⟨rest.result_eq, fun value member => ?_⟩
  rcases List.mem_append.1 member with before | after
  · exact formed value before
  · exact rest.formed value after

theorem yields_pure (result : α) : (pure result : Exact α).Yields fine result :=
  ⟨rfl, fun _ member => absurd member List.not_mem_nil⟩

theorem yields_form {value : Int} (isFine : fine value) : (form value).Yields fine value := by
  refine ⟨rfl, fun other member => ?_⟩
  rw [List.mem_singleton.1 member]
  exact isFine

theorem yields_next {span : Span} (isFine : fine (span.current + 1)) :
    (next span).Yields fine
      (if span.current + 1 < span.pageCount then some (span.current + 1) else none) :=
  (yields_form isFine).bind (yields_pure _)

end Exact

def IsWord (value : Int) : Prop :=
  0 ≤ value ∧ value < UInt64.size

theorem isWord_of_lt {n : Nat} (small : n < UInt64.size) : IsWord n :=
  ⟨Int.natCast_nonneg n, Int.ofNat_lt.2 small⟩

namespace Exact

variable {fine : Int → Prop} {sizing : Sizing} {pages index : UInt64}

section

variable (words : ∀ value, IsWord value → fine value)
include words

theorem yields_subtract {a b result : Nat} (small : a < UInt64.size) (difference : a - b = result) :
    (subtract a b).Yields fine result := by
  have value : (result : Int) = max ((a : Int) - b) 0 := by omega
  have isWord : IsWord result := isWord_of_lt (by omega)
  rw [value] at isWord ⊢
  exact yields_form (words _ isWord)

theorem yields_side (sizing : Sizing) :
    (side sizing.maxHandles.toNat).Yields fine sizing.side.toNat := by
  have small := sizing.maxHandles.toNat_lt_size
  have others := yields_subtract words (b := 1) small rfl
  refine others.bind ?_
  have value : (sizing.side.toNat : Int) = ((sizing.maxHandles.toNat - 1 : Nat) : Int) / 2 := by
    rw [Sizing.toNat_side]
    omega
  rw [← value]
  exact yields_form (words _ (isWord_of_lt sizing.side.toNat_lt_size))

theorem yields_pageCount (sizing : Sizing) (count : UInt64) :
    (pageCount sizing.pageSize.toNat count.toNat).Yields fine (sizing.pageCount count).toNat := by
  unfold pageCount
  by_cases zero : sizing.pageSize = 0
  · rw [if_pos (by rw [zero]; rfl), Sizing.pageCount, if_pos zero]
    exact yields_pure _
  have positive := Sizing.pageSize_pos zero
  have small := count.toNat_lt_size
  have inside := (sizing.pageCount count).toNat_lt_size
  have quotient := Nat.div_le_self count.toNat sizing.pageSize.toNat
  have remainder := Nat.mod_le count.toNat sizing.pageSize.toNat
  rw [if_neg (by omega)]
  refine (yields_form (words _ (isWord_of_lt (Nat.lt_of_le_of_lt quotient small)))).bind ?_
  refine (yields_form (words _ (isWord_of_lt (Nat.lt_of_le_of_lt remainder small)))).bind ?_
  rw [Sizing.toNat_pageCount_eq_div zero count] at inside ⊢
  simp only [Int.natCast_eq_zero]
  split
  · exact yields_pure _
  · rename_i rest
    rw [if_neg rest] at inside
    exact yields_form (words _ (isWord_of_lt inside))

variable (sum : ¬pages ≤ sizing.maxHandles → fine (PageWindow.sum sizing pages index))
include sum

theorem yields_around : (around sizing.maxHandles.toNat pages.toNat index.toNat).Yields fine
    (.placed sizing pages index) := by
  have small := pages.toNat_lt_size
  rw [UInt64.le_iff_toNat_le] at sum
  unfold around
  refine (yields_subtract words (b := 1) small rfl).bind ?_
  have current : min (index.toNat : Int) (pages.toNat - 1 : Nat) =
      (min index.toNat (pages.toNat - 1) : Nat) := by omega
  dsimp only
  rw [current]
  split
  · rename_i few
    have placed : Span.placed sizing pages index =
        { start := 0, stop := pages.toNat, current := (min index.toNat (pages.toNat - 1) : Nat)
          pageCount := pages.toNat } := by
      simp only [Span.placed, Span.mk.injEq, and_true]
      omega
    rw [placed]
    exact yields_pure _
  · rename_i many
    refine (yields_side words sizing).bind ?_
    refine (yields_subtract words (a := min index.toNat (pages.toNat - 1)) (by omega) rfl).bind ?_
    refine (yields_form (sum (by omega))).bind ?_
    unfold PageWindow.sum
    split
    · rename_i past
      have placed : Span.placed sizing pages index =
          { start := (pages.toNat - sizing.maxHandles.toNat : Nat), stop := pages.toNat
            current := (min index.toNat (pages.toNat - 1) : Nat), pageCount := pages.toNat } := by
        simp only [Span.placed, Span.mk.injEq, and_true]
        omega
      rw [placed]
      exact (yields_subtract words small rfl).bind (yields_pure _)
    · rename_i within
      have placed : Span.placed sizing pages index =
          { start := (min index.toNat (pages.toNat - 1) - sizing.side.toNat : Nat)
            stop := (min index.toNat (pages.toNat - 1) - sizing.side.toNat + sizing.maxHandles.toNat : Nat)
            current := (min index.toNat (pages.toNat - 1) : Nat), pageCount := pages.toNat } := by
        simp only [Span.placed, Span.mk.injEq, and_true]
        omega
      rw [placed]
      exact yields_pure _

theorem yields_survey : (survey sizing.maxHandles.toNat pages.toNat index.toNat).Yields fine
    (Span.placed sizing pages index).survey := by
  have small := pages.toNat_lt_size
  unfold survey
  have size : IsWord ((Span.placed sizing pages index).stop - (Span.placed sizing pages index).start) := by
    unfold IsWord Span.placed
    dsimp only
    omega
  have following : IsWord ((Span.placed sizing pages index).current + 1) := by
    unfold IsWord Span.placed
    dsimp only
    simp only [UInt64.size] at small ⊢
    omega
  refine (yields_around words sum).bind ?_
  refine (yields_form (words _ size)).bind ?_
  exact (yields_next (words _ following)).bind (yields_pure _)

theorem yields_surveyOf (count : UInt64) (counted : sizing.pageCount count = pages) :
    (surveyOf sizing.pageSize.toNat sizing.maxHandles.toNat count.toNat index.toNat).Yields fine
      (Span.placed sizing pages index).survey := by
  refine (yields_pageCount words sizing count).bind ?_
  rw [counted]
  exact yields_survey words sum

end

/-! ## Words and integers -/

theorem mem_formed_bind {α β : Type} {first : Exact α} {next : α → Exact β} {value : Int} :
    value ∈ (first >>= next).formed ↔ value ∈ first.formed ∨ value ∈ (next first.result).formed :=
  List.mem_append

theorem sum_mem_formed (many : ¬pages ≤ sizing.maxHandles) :
    (PageWindow.sum sizing pages index : Int) ∈
      (survey sizing.maxHandles.toNat pages.toNat index.toNat).formed := by
  rw [UInt64.le_iff_toNat_le] at many
  have side := Sizing.toNat_side sizing
  have sum : (PageWindow.sum sizing pages index : Int) =
      max (min (index.toNat : Int) (max (pages.toNat - 1) 0) -
        max ((sizing.maxHandles.toNat : Int) - 1) 0 / 2) 0 + sizing.maxHandles.toNat := by
    unfold PageWindow.sum
    omega
  refine mem_formed_bind.2 (.inl (mem_formed_bind.2 (.inr ?_)))
  dsimp only
  rw [if_neg (by omega)]
  refine mem_formed_bind.2 (.inr (mem_formed_bind.2 (.inr (mem_formed_bind.2 (.inl ?_)))))
  exact List.mem_singleton.2 sum

end Exact

namespace PageWindow

variable {sizing : Sizing} {pages index : UInt64}

theorem map_next (window : PageWindow) (small : window.current.toNat + 1 < UInt64.size) :
    (window.next.map fun i => (i.toNat : Int)) =
      if (window.current.toNat : Int) + 1 < window.pageCount.toNat then
        some ((window.current.toNat : Int) + 1)
      else none := by
  have after := window.toNat_current_add_one small
  have less_iff : window.current + 1 < window.pageCount ↔
      (window.current.toNat : Int) + 1 < window.pageCount.toNat := by
    rw [UInt64.lt_iff_toNat_lt, after]
    omega
  unfold next
  simp only [less_iff]
  split
  · rw [Option.map_some, after]
    rfl
  · rw [Option.map_none]

theorem survey_around (fits : SumFits sizing pages index) :
    (around sizing pages index).survey = (Span.placed sizing pages index).survey := by
  have current := toNat_current sizing pages index
  have small := pages.toNat_lt_size
  obtain ⟨start, stop⟩ := toNat_around fits
  have size := (around sizing pages index).toNat_size (by omega)
  have following := map_next (around sizing pages index) (by
    simp only [UInt64.size] at small ⊢
    omega)
  rw [current] at start
  rw [survey, following, size, stop, start, current, pageCount_around]
  unfold Span.survey Span.placed
  simp only [Prod.mk.injEq, Span.mk.injEq, true_and, and_true]
  omega

theorem survey_around_ne (large : ¬SumFits sizing pages index) :
    (around sizing pages index).survey ≠ (Span.placed sizing pages index).survey := by
  intro same
  have start := congrArg (fun survey : Survey => survey.1.start) same
  have stop := congrArg (fun survey : Survey => survey.1.stop) same
  have empty := stop_le_start_of_not_sumFits large
  have small := pages.toNat_lt_size
  rw [sumFits_iff, sum] at large
  simp only [survey, Span.survey, Span.placed] at start stop
  omega

end PageWindow

/-- What is formed are words, or the sum. It is only words, and the words give the same results, when it is
said to fit. -/
structure Exact.Meets (exact : Exact Survey) (window : PageWindow) (sum : Nat) (fits : Prop) : Prop where
  word_or_sum : ∀ value ∈ exact.formed, IsWord value ∨ value = sum
  words_iff : (∀ value ∈ exact.formed, IsWord value) ↔ fits
  result_iff : exact.result = window.survey ↔ fits

theorem Exact.meets {sizing : Sizing} {pages index : UInt64} {exact : Exact Survey}
    (yields : ∀ fine : Int → Prop, (∀ value, IsWord value → fine value) →
      (¬pages ≤ sizing.maxHandles → fine (PageWindow.sum sizing pages index)) →
        exact.Yields fine (Span.placed sizing pages index).survey)
    (formed : ¬pages ≤ sizing.maxHandles → (PageWindow.sum sizing pages index : Int) ∈ exact.formed) :
    exact.Meets (PageWindow.around sizing pages index) (PageWindow.sum sizing pages index)
      (PageWindow.SumFits sizing pages index) := by
  have loose := yields (fun value => IsWord value ∨ value = PageWindow.sum sizing pages index)
    (fun _ => .inl) (fun _ => .inr rfl)
  refine ⟨loose.formed, ⟨fun words => ?_, fun fits => ?_⟩, ?_⟩
  · rw [PageWindow.sumFits_iff, ← UInt64.le_iff_toNat_le, or_iff_not_imp_left]
    intro many
    exact Int.ofNat_lt.1 (words _ (formed many)).2
  · rw [PageWindow.sumFits_iff, ← UInt64.le_iff_toNat_le] at fits
    exact (yields IsWord (fun _ => id) fun many => isWord_of_lt (fits.resolve_left many)).formed
  · rw [loose.result_eq]
    constructor
    · intro same
      by_contra large
      exact PageWindow.survey_around_ne large same.symm
    · intro fits
      exact (PageWindow.survey_around fits).symm

/-- For all sizes, numbers of records or of pages, and indices. As long as there are no more pages than
handles, or both together are a word, the sum fits. -/
theorem words_exact_iff (sizing : Sizing) :
    (∀ pages index : UInt64,
      (Exact.survey sizing.maxHandles.toNat pages.toNat index.toNat).Meets
        (PageWindow.around sizing pages index) (PageWindow.sum sizing pages index)
        (PageWindow.SumFits sizing pages index)) ∧
    (∀ count index : UInt64,
      (Exact.surveyOf sizing.pageSize.toNat sizing.maxHandles.toNat count.toNat index.toNat).Meets
        (sizing.window count index) (PageWindow.sum sizing (sizing.pageCount count) index)
        (PageWindow.SumFits sizing (sizing.pageCount count) index)) ∧
    ∀ count, sizing.Fits count → ∀ index, PageWindow.SumFits sizing (sizing.pageCount count) index := by
  refine ⟨fun pages index => ?_, fun count index => ?_, fun count fits index => ?_⟩
  · exact Exact.meets (fun _ words sum => Exact.yields_survey words sum) Exact.sum_mem_formed
  · apply Exact.meets
    · intro fine words sum
      exact Exact.yields_surveyOf words sum count rfl
    · intro many
      have counted := Exact.yields_pageCount (fun _ => id) sizing count
      refine Exact.mem_formed_bind.2 (.inr ?_)
      rw [counted.result_eq]
      exact Exact.sum_mem_formed many
  · exact Sizing.fitsAround_iff.1 (fits.around index)

theorem words_exact_iff_even :
    let sizing : Sizing := { pageSize := 10, maxHandles := 4 }
    let exact := Exact.surveyOf 10 4 95 5
    sizing.Fits 95 ∧ (∀ value ∈ exact.formed, IsWord value) ∧
      exact.result = (sizing.window 95 5).survey ∧ exact.result.1.start = 4 := by
  intro sizing exact
  obtain ⟨-, counted, small⟩ := words_exact_iff sizing
  have fits : sizing.Fits 95 := .inr (by decide)
  have meets := counted 95 5
  exact ⟨fits, meets.words_iff.2 (small 95 fits 5), meets.result_iff.2 (small 95 fits 5), by decide⟩

theorem sum_too_large :
    let sizing : Sizing := { pageSize := 1, maxHandles := 0x7FFFFFFFFFFFFFFF }
    let window := sizing.window Word.greatest Word.greatest
    let exact := Exact.surveyOf 1 0x7FFFFFFFFFFFFFFF (2 ^ 64 - 1) (2 ^ 64 - 1)
    sizing.validate = .ok () ∧ ¬(∀ value ∈ exact.formed, IsWord value) ∧
      window.start = 0xBFFFFFFFFFFFFFFF ∧ window.stop = 0x3FFFFFFFFFFFFFFE ∧
      exact.result.1.start = 2 ^ 63 ∧ exact.result.1.stop = 2 ^ 64 - 1 := by
  intro sizing window exact
  have outside : ¬IsWord (2 ^ 64 + 2 ^ 62 - 2) := by
    unfold IsWord
    decide
  refine ⟨by decide, fun words => outside (words _ ?_), by decide, by decide, by decide, by decide⟩
  decide

end ReportCards

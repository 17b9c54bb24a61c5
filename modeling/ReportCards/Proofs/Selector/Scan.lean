import Mathlib.Data.PFun
import ReportCards.Proofs.Selector.Grammar

/-!
# Scanning by positions

The readers of selectors take a text apart as a list. Here compounds are scanned by positions in the text, by
loops that nothing bounds and with accesses that fail outside of the text. Wherever a scan starts, it comes to
what the reader of the rest of the text comes to: `compoundAt_append`. So it ends, it never leaves the text, and
it stops later than it has started, at a blank, a `>` or the end: `Meets.compoundAt`.
-/
namespace ReportCards.Selector
open Text

inductive ScanFailure where
  | fault (fault : SelectorFault)
  | outOfRange
deriving DecidableEq, Repr

/-- A computation that may fail, and that may also go on forever. -/
abbrev Scan := ExceptT ScanFailure Part

namespace Scan

variable {α β σ : Type} {holds : α → Prop}

/-! ## Loops -/

def follow (state : σ) : Except ScanFailure (Option σ) → Except ScanFailure σ ⊕ σ
  | .error failure => .inl (.error failure)
  | .ok none => .inl (.ok state)
  | .ok (some next) => .inr next

def loop (round : σ → Scan (Option σ)) : σ → Scan σ :=
  PFun.fix fun state => (round state).run.map (follow state)

theorem mem_round {round : σ → Scan (Option σ)} {state : σ} {outcome : Except ScanFailure (Option σ)}
    (round_eq : round state = Part.some outcome) :
    follow state outcome ∈ (round state).run.map (follow state) := by
  rw [round_eq]
  exact Part.mem_map _ (Part.mem_some outcome)

theorem loop_of_none {round : σ → Scan (Option σ)} {state : σ} (ends : round state = pure none) :
    loop round state = pure state :=
  Part.eq_some_iff.2 (PFun.fix_stop (mem_round ends))

theorem loop_of_some {round : σ → Scan (Option σ)} {state next : σ}
    (goesOn : round state = pure (some next)) : loop round state = loop round next :=
  PFun.fix_fwd_eq (mem_round goesOn)

theorem loop_of_throw {round : σ → Scan (Option σ)} {state : σ} {failure : ScanFailure}
    (fails : round state = throw failure) : loop round state = throw failure :=
  Part.eq_some_iff.2 (PFun.fix_stop (mem_round fails))

theorem throw_bind (failure : ScanFailure) (next : α → Scan β) :
    (throw failure : Scan α) >>= next = throw failure :=
  Part.bind_some _ _

/-- The scan ends, without asking for anything that does not exist. Its result is as stated, or there is a fault
in the text, which is not that a character was unexpected. -/
inductive Meets (holds : α → Prop) : Scan α → Prop
  | result {a : α} (met : holds a) : Meets holds (pure a)
  | fault {fault : SelectorFault} (expected : fault ≠ .unexpectedCharacter) :
      Meets holds (throw (.fault fault))

theorem Meets.met {a : α} (meets : Meets holds (pure a)) : holds a := by
  generalize same : (pure a : Scan α) = scan at meets
  cases meets with
  | result met =>
      cases Part.some_injective same
      exact met
  | fault => cases Part.some_injective same

theorem Meets.expected {fault : SelectorFault} (meets : Meets holds (throw (.fault fault))) :
    fault ≠ .unexpectedCharacter := by
  generalize same : (throw (.fault fault) : Scan α) = scan at meets
  cases meets with
  | result => cases Part.some_injective same
  | fault expected =>
      cases Part.some_injective same
      exact expected

theorem Meets.mono {holds' : α → Prop} {scan : Scan α} (meets : Meets holds scan)
    (weaker : ∀ a, holds a → holds' a) : Meets holds' scan := by
  cases meets with
  | result met => exact .result (weaker _ met)
  | fault expected => exact .fault expected

theorem Meets.bind {holds' : β → Prop} {scan : Scan α} {next : α → Scan β} (first : Meets holds scan)
    (second : ∀ a, holds a → Meets holds' (next a)) : Meets holds' (scan >>= next) := by
  cases first with
  | result met =>
      rw [pure_bind]
      exact second _ met
  | fault expected =>
      rw [throw_bind]
      exact .fault expected

theorem Meets.loop {round : σ → Scan (Option σ)} {keeps : σ → Prop} (room : σ → Nat)
    (each : ∀ state, keeps state →
      Meets (fun next? => ∀ next ∈ next?, keeps next ∧ room next < room state) (round state))
    {state : σ} (start : keeps state) : Meets keeps (loop round state) := by
  induction size : room state using Nat.strongRecOn generalizing state with
  | ind size ih =>
      subst size
      have here := each state start
      generalize made : round state = scan at here
      cases here with
      | @result next? goesOn =>
          cases next? with
          | none =>
              rw [loop_of_none made]
              exact .result start
          | some next =>
              obtain ⟨kept, less⟩ := goesOn next rfl
              rw [loop_of_some made]
              exact ih (room next) less kept rfl
      | fault expected =>
          rw [loop_of_throw made]
          exact .fault expected

/-! ## Accesses -/

def charAt (text : List Char) (pos : Nat) : Scan Char :=
  match text[pos]? with
  | some c => pure c
  | none => throw .outOfRange

def slice (text : List Char) (first last : Nat) : Scan (List Char) :=
  if first ≤ last ∧ last ≤ text.length then pure ((text.take last).drop first)
  else throw .outOfRange

theorem charAt_append (front : List Char) (c : Char) (rest : List Char) :
    charAt (front ++ c :: rest) front.length = pure c := by
  simp [charAt]

theorem slice_append (front middle back : List Char) :
    slice (front ++ middle ++ back) front.length (front ++ middle).length = pure middle := by
  rw [slice, if_pos (by simp), List.take_left, List.drop_left]

/-! ## Names -/

def nameRound (text : List Char) (pos : Nat) : Scan (Option Nat) := do
  if pos < text.length then
    let c ← charAt text pos
    return if isNameChar c then some (pos + 1) else none
  else return none

def nameAt (text : List Char) (start : Nat) : Scan (List Char × Nat) := do
  let stop ← loop (nameRound text) start
  let name ← slice text start stop
  return (name, stop)

theorem loop_nameRound (front rest : List Char) :
    loop (nameRound (front ++ rest)) front.length =
      pure (front ++ rest.takeWhile isNameChar).length := by
  induction rest generalizing front with
  | nil =>
      have ends : nameRound (front ++ []) front.length = pure none := by
        rw [nameRound, if_neg (by simp)]
      rw [loop_of_none ends, List.takeWhile_nil, List.append_nil]
  | cons c rest ih =>
      have round : nameRound (front ++ c :: rest) front.length =
          pure (if isNameChar c then some (front.length + 1) else none) := by
        rw [nameRound, if_pos (by simp), charAt_append, pure_bind]
      cases nameChar : isNameChar c with
      | false =>
          rw [nameChar] at round
          rw [loop_of_none round, List.takeWhile_cons_of_neg (by simp [nameChar]), List.append_nil]
      | true =>
          rw [nameChar] at round
          have more := ih (front ++ [c])
          rw [List.append_assoc, List.singleton_append, List.length_append,
            List.length_singleton] at more
          rw [loop_of_some round, more, List.takeWhile_cons_of_pos nameChar, List.append_assoc,
            List.singleton_append]

theorem nameAt_append (front rest : List Char) :
    nameAt (front ++ rest) front.length =
      pure (rest.takeWhile isNameChar, (front ++ rest.takeWhile isNameChar).length) := by
  have cut := slice_append front (rest.takeWhile isNameChar) (rest.dropWhile isNameChar)
  rw [List.append_assoc, List.takeWhile_append_dropWhile] at cut
  rw [nameAt, loop_nameRound, pure_bind, cut, pure_bind]

/-! ## Compounds -/

def tagAt (text : List Char) (start : Nat) : Scan (Option TagTest × Nat) := do
  let c ← charAt text start
  if c = '*' then return (some .any, start + 1)
  else if isNameChar c then
    let (name, stop) ← nameAt text start
    return (some (.named (lowerCase (String.ofList name))), stop)
  else return (none, start)

def markedAt (text : List Char) (mark : Nat) (missing : SelectorFault) : Scan (String × Nat) := do
  let (name, stop) ← nameAt text (mark + 1)
  if name = [] then throw (.fault missing)
  else return (String.ofList name, stop)

def bracketAt (text : List Char) (opening : Nat) : Scan (AttributeTest × Nat) := do
  let rest ← slice text opening text.length
  match rest.findIdx? (· = ']') with
  | none => throw (.fault .unclosedBracket)
  | some offset =>
      let body ← slice text (opening + 1) (opening + offset)
      match readAttributeTest body with
      | .error fault => throw (.fault fault)
      | .ok test => return (test, opening + offset + 1)

def testRound (text : List Char) : Compound × Nat → Scan (Option (Compound × Nat))
  | (compound, pos) => do
      if pos < text.length then
        let c ← charAt text pos
        if c = '#' then
          let (name, stop) ← markedAt text pos .emptyId
          return some ({ compound with id := some name }, stop)
        else if c = '.' then
          let (name, stop) ← markedAt text pos .emptyClass
          return some ({ compound with classes := compound.classes ++ [name] }, stop)
        else if c = '[' then
          let (test, stop) ← bracketAt text pos
          return some ({ compound with attributes := compound.attributes ++ [test] }, stop)
        else if isBlank c ∨ c = '>' then return none
        else throw (.fault (.unsupportedCharacter c))
      else return none

def compoundAt (text : List Char) (start : Nat) : Scan (Compound × Nat) := do
  let (tag, begun) ← tagAt text start
  let (compound, stop) ← loop (testRound text) ({ tag }, begun)
  if compound.isEmpty then throw (.fault .emptyCompound)
  else return (compound, stop)

/-- What a reader has come to, with the position at which the rest of the text begins. -/
def ofReading (text : List Char) (reading : Except SelectorFault (α × List Char)) : Scan (α × Nat) :=
  match reading with
  | .ok (value, rest) => pure (value, text.length - rest.length)
  | .error fault => throw (.fault fault)

theorem markedAt_append (front : List Char) (mark : Char) (rest : List Char)
    (missing : SelectorFault) :
    markedAt (front ++ mark :: rest) front.length missing =
      if rest.takeWhile isNameChar = [] then throw (.fault missing)
      else pure (String.ofList (rest.takeWhile isNameChar),
        (front ++ mark :: rest.takeWhile isNameChar).length) := by
  have named := nameAt_append (front ++ [mark]) rest
  simp only [List.append_assoc, List.singleton_append, List.length_append,
    List.length_singleton] at named
  rw [markedAt, named, pure_bind]
  simp only [List.length_append]

theorem bracketAt_append (front rest : List Char) :
    bracketAt (front ++ '[' :: rest) front.length =
      match splitOnce ']' rest with
      | none => throw (.fault .unclosedBracket)
      | some (body, _) =>
          match readAttributeTest body with
          | .error fault => throw (.fault fault)
          | .ok test => pure (test, (front ++ '[' :: (body ++ [']'])).length) := by
  have tail : slice (front ++ '[' :: rest) front.length (front ++ '[' :: rest).length =
      pure ('[' :: rest) := by
    have whole := slice_append front ('[' :: rest) []
    rwa [List.append_nil] at whole
  rw [bracketAt, tail, pure_bind]
  cases cut : splitOnce ']' rest with
  | none =>
      have open_ : ('[' :: rest).findIdx? (· = ']') = none := by
        have absent : ']' ∉ '[' :: rest := by simp [splitOnce_eq_none_iff.1 cut]
        exact List.findIdx?_eq_none_iff.2 fun c member =>
          decide_eq_false fun same => absent (same ▸ member)
      simp only [open_]
  | some found =>
      obtain ⟨body, after⟩ := found
      obtain ⟨rfl, closed⟩ := splitOnce_eq_some cut
      have first : ('[' :: (body ++ ']' :: after)).findIdx? (· = ']') = some (body.length + 1) := by
        have absent : body.findIdx? (· = ']') = none :=
          List.findIdx?_eq_none_iff.2 fun c member =>
            decide_eq_false fun same => closed (same ▸ member)
        simp [List.findIdx?_cons, List.findIdx?_append, absent]
      have inner := slice_append (front ++ ['[']) body (']' :: after)
      simp only [List.append_assoc, List.cons_append, List.nil_append, List.length_append,
        List.length_cons, List.length_nil, Nat.zero_add] at inner
      simp only [first, List.length_append, List.length_cons, List.length_nil, Nat.zero_add]
      rw [inner, pure_bind]
      cases readAttributeTest body <;> rfl

theorem readTag_cons {c : Char} (named : c ≠ '*') (rest : List Char) :
    readTag (c :: rest) =
      if (c :: rest).takeWhile isNameChar = [] then (none, c :: rest)
      else (some (.named (lowerCase (String.ofList ((c :: rest).takeWhile isNameChar)))),
        (c :: rest).dropWhile isNameChar) := by
  unfold readTag
  split
  · rename_i star
    cases star
    exact absurd rfl named
  · rfl

theorem tagAt_append (front : List Char) (c : Char) (rest : List Char) :
    ∃ tag, c :: rest = tag ++ (readTag (c :: rest)).2 ∧
      tagAt (front ++ c :: rest) front.length =
        pure ((readTag (c :: rest)).1, (front ++ tag).length) := by
  rw [tagAt, charAt_append, pure_bind]
  by_cases star : c = '*'
  · subst star
    exact ⟨['*'], rfl, by rw [if_pos rfl, List.length_append]; rfl⟩
  rw [if_neg star, readTag_cons star]
  cases nameChar : isNameChar c with
  | false =>
      have noName : (c :: rest).takeWhile isNameChar = [] :=
        List.takeWhile_cons_of_neg (by simp [nameChar])
      refine ⟨[], ?_, ?_⟩
      · rw [noName]
        rfl
      · rw [noName, List.append_nil]
        rfl
  | true =>
      have someName : (c :: rest).takeWhile isNameChar ≠ [] := by
        rw [List.takeWhile_cons_of_pos nameChar]
        exact List.cons_ne_nil _ _
      refine ⟨(c :: rest).takeWhile isNameChar, ?_, ?_⟩
      · rw [if_neg someName, List.takeWhile_append_dropWhile]
      · rw [if_pos rfl, if_neg someName, nameAt_append, pure_bind]

theorem ofReading_ok (front : List Char) (value : α) (rest : List Char) :
    ofReading (front ++ rest) (.ok (value, rest)) = pure (value, front.length) := by
  simp [ofReading]

theorem testRound_cons (front : List Char) (compound : Compound) (c : Char) (rest : List Char) :
    testRound (front ++ c :: rest) (compound, front.length) =
      if c = '#' then do
        let (name, stop) ← markedAt (front ++ c :: rest) front.length .emptyId
        return some ({ compound with id := some name }, stop)
      else if c = '.' then do
        let (name, stop) ← markedAt (front ++ c :: rest) front.length .emptyClass
        return some ({ compound with classes := compound.classes ++ [name] }, stop)
      else if c = '[' then do
        let (test, stop) ← bracketAt (front ++ c :: rest) front.length
        return some ({ compound with attributes := compound.attributes ++ [test] }, stop)
      else if isBlank c ∨ c = '>' then return none
      else throw (.fault (.unsupportedCharacter c)) := by
  rw [testRound, if_pos (by simp), charAt_append, pure_bind]

theorem loop_testRound (front rest : List Char) (compound : Compound) :
    loop (testRound (front ++ rest)) (compound, front.length) =
      ofReading (front ++ rest) (readTests compound rest) := by
  fun_induction readTests compound rest generalizing front with
  | case1 compound =>
      have ends : testRound (front ++ []) (compound, front.length) = pure none := by
        rw [testRound, if_neg (by simp)]
      rw [loop_of_none ends, ofReading_ok]
  | case2 compound tail name empty =>
      have fails : testRound (front ++ '#' :: tail) (compound, front.length) = throw (.fault .emptyId) := by
        rw [testRound_cons, if_pos rfl, markedAt_append, if_pos empty, throw_bind]
      rw [loop_of_throw fails, ofReading]
  | case3 compound tail name nonempty ih =>
      have goesOn : testRound (front ++ '#' :: tail) (compound, front.length) =
          pure (some ({ compound with id := some (String.ofList name) },
            (front ++ '#' :: name).length)) := by
        rw [testRound_cons, if_pos rfl, markedAt_append, if_neg nonempty, pure_bind]
      have rest := ih (front ++ '#' :: name)
      rw [List.append_assoc, List.cons_append, List.takeWhile_append_dropWhile] at rest
      rw [loop_of_some goesOn, rest]
  | case4 compound tail name empty =>
      have fails : testRound (front ++ '.' :: tail) (compound, front.length) =
          throw (.fault .emptyClass) := by
        rw [testRound_cons, if_neg (by decide), if_pos rfl, markedAt_append, if_pos empty, throw_bind]
      rw [loop_of_throw fails, ofReading]
  | case5 compound tail name nonempty ih =>
      have goesOn : testRound (front ++ '.' :: tail) (compound, front.length) =
          pure (some ({ compound with classes := compound.classes ++ [String.ofList name] },
            (front ++ '.' :: name).length)) := by
        rw [testRound_cons, if_neg (by decide), if_pos rfl, markedAt_append, if_neg nonempty, pure_bind]
      have rest := ih (front ++ '.' :: name)
      rw [List.append_assoc, List.cons_append, List.takeWhile_append_dropWhile] at rest
      rw [loop_of_some goesOn, rest]
  | case6 compound tail unclosed =>
      have fails : testRound (front ++ '[' :: tail) (compound, front.length) =
          throw (.fault .unclosedBracket) := by
        rw [testRound_cons, if_neg (by decide), if_neg (by decide), if_pos rfl, bracketAt_append, unclosed]
        exact throw_bind _ _
      rw [loop_of_throw fails, ofReading]
  | case7 compound tail body after found fault failed =>
      have fails : testRound (front ++ '[' :: tail) (compound, front.length) = throw (.fault fault) := by
        rw [testRound_cons, if_neg (by decide), if_neg (by decide), if_pos rfl, bracketAt_append, found]
        simp only [failed]
        exact throw_bind _ _
      rw [loop_of_throw fails, ofReading]
  | case8 compound tail body after found test readTest shorter ih =>
      obtain ⟨rfl, -⟩ := splitOnce_eq_some found
      have goesOn : testRound (front ++ '[' :: (body ++ ']' :: after)) (compound, front.length) =
          pure (some ({ compound with attributes := compound.attributes ++ [test] },
            (front ++ '[' :: (body ++ [']'])).length)) := by
        rw [testRound_cons, if_neg (by decide), if_neg (by decide), if_pos rfl, bracketAt_append, found]
        simp only [readTest, pure_bind]
      have rest := ih (front ++ '[' :: (body ++ [']']))
      simp only [List.append_assoc, List.cons_append, List.nil_append] at rest
      rw [loop_of_some goesOn, rest]
  | case9 compound c tail noId noClass noBracket stop =>
      have ends : testRound (front ++ c :: tail) (compound, front.length) = pure none := by
        rw [testRound_cons, if_neg noId, if_neg noClass, if_neg noBracket, if_pos stop]
      rw [loop_of_none ends, ofReading_ok]
  | case10 compound c tail noId noClass noBracket goesOn =>
      have fails : testRound (front ++ c :: tail) (compound, front.length) =
          throw (.fault (.unsupportedCharacter c)) := by
        rw [testRound_cons, if_neg noId, if_neg noClass, if_neg noBracket, if_neg goesOn]
      rw [loop_of_throw fails, ofReading]

theorem compoundAt_append (front : List Char) (c : Char) (rest : List Char) :
    compoundAt (front ++ c :: rest) front.length =
      ofReading (front ++ c :: rest) (readCompound (c :: rest)) := by
  obtain ⟨tag, whole, tagged⟩ := tagAt_append front c rest
  have tests := loop_testRound (front ++ tag) (readTag (c :: rest)).2 { tag := (readTag (c :: rest)).1 }
  rw [List.append_assoc, ← whole] at tests
  rw [compoundAt, tagged, pure_bind]
  simp only [tests, readCompound]
  cases readTests { tag := (readTag (c :: rest)).1 } (readTag (c :: rest)).2 with
  | error fault => exact throw_bind _ _
  | ok read =>
      obtain ⟨compound, after⟩ := read
      simp only [ofReading, pure_bind]
      split <;> rfl

theorem readAttributeTest_eq_error {body : List Char} {fault : SelectorFault}
    (failed : readAttributeTest body = .error fault) : ∃ name, fault = .invalidAttributeName name := by
  unfold readAttributeTest at failed
  cases cut : splitOnce '=' body with
  | none =>
      simp only [cut] at failed
      split at failed
      · cases failed
      · cases failed
        exact ⟨_, rfl⟩
  | some found =>
      simp only [cut] at failed
      split at failed
      · cases failed
      · cases failed
        exact ⟨_, rfl⟩

theorem readTests_ne_unexpected (compound : Compound) (text : List Char) :
    readTests compound text ≠ .error .unexpectedCharacter := by
  fun_induction readTests compound text with
  | case3 | case5 | case8 => assumption
  | case7 compound tail body after found fault failed =>
      obtain ⟨name, rfl⟩ := readAttributeTest_eq_error failed
      simp
  | _ => simp

theorem readCompound_ne_unexpected (text : List Char) :
    readCompound text ≠ .error .unexpectedCharacter := by
  have tests := readTests_ne_unexpected { tag := (readTag text).1 } (readTag text).2
  unfold readCompound
  dsimp only
  split
  · rename_i failed
    rwa [failed] at tests
  · split <;> simp

theorem Meets.compoundAt {text : List Char} {start : Nat} (inside : start < text.length) :
    Meets (fun found => start < found.2 ∧ found.2 ≤ text.length ∧ AtBoundary (text.drop found.2))
      (compoundAt text start) := by
  obtain ⟨front, c, rest, rfl, rfl⟩ :
      ∃ front c rest, text = front ++ c :: rest ∧ start = front.length := by
    refine ⟨text.take start, text[start], text.drop (start + 1), ?_, ?_⟩
    · rw [← List.drop_eq_getElem_cons inside, List.take_append_drop]
    · rw [List.length_take, Nat.min_eq_left (Nat.le_of_lt inside)]
  rw [compoundAt_append]
  cases read : readCompound (c :: rest) with
  | error fault =>
      refine .fault ?_
      rintro rfl
      exact readCompound_ne_unexpected _ read
  | ok found =>
      obtain ⟨compound, after⟩ := found
      obtain ⟨shorter, -, boundary⟩ := readCompound_stops read
      obtain ⟨written, whole, -⟩ := writtenAs_of_readCompound read
      rw [whole, ← List.append_assoc, ofReading_ok]
      have longer : 0 < written.length := by
        rw [whole, List.length_append] at shorter
        omega
      refine .result ⟨?_, ?_, ?_⟩
      · rw [List.length_append]
        omega
      · exact (List.prefix_append (front ++ written) after).length_le
      · rwa [List.drop_left]

end Scan
end ReportCards.Selector

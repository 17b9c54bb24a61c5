import ReportCards.Proofs.Selector.Chain
import ReportCards.Proofs.Selector.Scan

namespace ReportCards.Selector
open Text Document Relation

variable {κ : Type} {doc : Document κ} {text : List Char}

structure ChainState where
  parts : List (Combinator × Compound) := []
  pending : Option Combinator := none
  pos : Nat := 0

namespace Scan

/-! ## The loop -/

def chainRound (text : List Char) (state : ChainState) : Scan (Option ChainState) := do
  if state.pos < text.length then
    let c ← charAt text state.pos
    if isBlank c then
      let pending :=
        if state.parts ≠ [] ∧ state.pending.isNone then some .descendant else state.pending
      return some { state with pending, pos := state.pos + 1 }
    else if c = '>' then
      if state.parts = [] ∨ state.pending = some .child then throw (.fault .misplacedChild)
      else return some { state with pending := some .child, pos := state.pos + 1 }
    else if state.parts ≠ [] ∧ state.pending.isNone then throw (.fault .unexpectedCharacter)
    else
      let (compound, stop) ← compoundAt text state.pos
      return some
        { parts := state.parts ++ [(state.pending.getD .descendant, compound)]
          pending := none
          pos := stop }
  else return none

def finish (last : ChainState) : Scan (List (Combinator × Compound)) :=
  if last.pending = some .child then throw (.fault .danglingChild)
  else pure last.parts

def scan (source : String) : Scan (List (Combinator × Compound)) := do
  let text := trim source.toList
  if text = [] then throw (.fault .empty)
  else
    let last ← loop (chainRound text) {}
    finish last

def Reached (text : List Char) (state : ChainState) : Prop :=
  ReflTransGen (fun before after => chainRound text before = pure (some after)) {} state

/-- The position is not beyond the text, and after a compound it is where a compound may end. -/
structure Settled (text : List Char) (state : ChainState) : Prop where
  inside : state.pos ≤ text.length
  boundary : state.parts ≠ [] → state.pending = none → AtBoundary (text.drop state.pos)

theorem settled_start (text : List Char) : Settled text {} where
  inside := Nat.zero_le _
  boundary nonempty := absurd rfl nonempty

theorem charAt_of_lt {pos : Nat} (inside : pos < text.length) : charAt text pos = pure text[pos] := by
  simp [charAt, inside]

theorem Settled.meets_chainRound {state : ChainState} (settled : Settled text state) :
    Meets (fun next? => ∀ next ∈ next?, Settled text next ∧ state.pos < next.pos)
      (chainRound text state) := by
  unfold chainRound
  by_cases inside : state.pos < text.length
  · rw [if_pos inside, charAt_of_lt inside, pure_bind]
    by_cases blank : isBlank text[state.pos]
    · rw [if_pos blank]
      refine .result fun next here => ?_
      cases here
      refine ⟨⟨inside, fun nonempty unlinked => ?_⟩, Nat.lt_succ_self _⟩
      dsimp only at nonempty unlinked
      split at unlinked
      · cases unlinked
      · rename_i linked
        exact absurd ⟨nonempty, Option.isNone_iff_eq_none.2 unlinked⟩ linked
    rw [if_neg blank]
    by_cases child : text[state.pos] = '>'
    · rw [if_pos child]
      split
      · exact .fault (by decide)
      · refine .result fun next here => ?_
        cases here
        exact ⟨⟨inside, fun _ unlinked => absurd unlinked (Option.some_ne_none _)⟩, Nat.lt_succ_self _⟩
    rw [if_neg child]
    split
    · -- The place after a compound is blank, a `>` or the end.
      rename_i unlinked
      rcases settled.boundary unlinked.1 (Option.isNone_iff_eq_none.1 unlinked.2) with
        ends | ⟨c, rest, here, stop⟩
      · rw [List.drop_eq_nil_iff] at ends
        omega
      · rw [List.drop_eq_getElem_cons inside, List.cons.injEq] at here
        rw [← here.1] at stop
        exact absurd stop (not_or.2 ⟨blank, child⟩)
    · refine (Meets.compoundAt inside).bind fun found ends => ?_
      refine .result fun next here => ?_
      cases here
      exact ⟨⟨ends.2.1, fun _ _ => ends.2.2⟩, ends.1⟩
  · rw [if_neg inside]
    exact .result fun next member => absurd member (Option.not_mem_none next)

theorem Reached.settled {state : ChainState} (reached : Reached text state) : Settled text state := by
  induction reached with
  | refl => exact settled_start text
  | tail _ round ih =>
      have meets := ih.meets_chainRound
      rw [round] at meets
      exact (meets.met _ rfl).1

/-! ## Agreement with the reader -/

def ofChain (chain : Option Selector) (pending : Option Combinator) (pos : Nat) : ChainState where
  parts := (chain.map Selector.parts).getD []
  pending := pending
  pos := pos

theorem ofChain_parts_ne_nil_iff {chain : Option Selector} {pending : Option Combinator} {pos : Nat} :
    (ofChain chain pending pos).parts ≠ [] ↔ chain.isSome := by
  cases chain with
  | none => simp [ofChain]
  | some selector => simp [ofChain, selector.parts_ne_nil]

theorem chainRound_cons (front : List Char) (c : Char) (rest : List Char) (chain : Option Selector)
    (pending : Option Combinator) :
    chainRound (front ++ c :: rest) (ofChain chain pending front.length) =
      if isBlank c then
        pure (some (ofChain chain
          (if chain.isSome ∧ pending.isNone then some .descendant else pending) (front.length + 1)))
      else if c = '>' then
        if chain.isNone ∨ pending = some .child then throw (.fault .misplacedChild)
        else pure (some (ofChain chain (some .child) (front.length + 1)))
      else if chain.isSome ∧ pending.isNone then throw (.fault .unexpectedCharacter)
      else do
        let (compound, stop) ← compoundAt (front ++ c :: rest) front.length
        return some
          { parts := (ofChain chain pending front.length).parts ++
              [(pending.getD .descendant, compound)]
            pending := none
            pos := stop } := by
  have begun := @ofChain_parts_ne_nil_iff chain pending front.length
  have fresh : (ofChain chain pending front.length).parts = [] ↔ chain.isNone := by
    rw [← not_iff_not, ← ne_eq, begun]
    cases chain <;> simp
  rw [chainRound]
  simp only [begun, fresh]
  rw [if_pos (by simp [ofChain])]
  change (charAt (front ++ c :: rest) front.length >>= _) = _
  rw [charAt_append, pure_bind]
  rfl

theorem finish_loop_chainRound (front rest : List Char) (chain : Option Selector)
    (pending : Option Combinator)
    (start : chain = none → pending = none ∧ rest ≠ [] ∧ ∀ c ∈ rest.head?, isBlank c = false) :
    (loop (chainRound (front ++ rest)) (ofChain chain pending front.length) >>= finish) =
      match readChain chain pending rest with
      | .ok selector => pure selector.parts
      | .error fault => throw (.fault fault) := by
  fun_induction readChain chain pending rest generalizing front with
  | case1 chain =>
      have ends : chainRound (front ++ []) (ofChain chain (some .child) front.length) = pure none := by
        rw [chainRound, if_neg (by simp [ofChain])]
      rw [loop_of_none ends, pure_bind]
      exact if_pos rfl
  | case2 pending noChild selector =>
      have ends : chainRound (front ++ []) (ofChain (some selector) pending front.length) =
          pure none := by
        rw [chainRound, if_neg (by simp [ofChain])]
      rw [loop_of_none ends, pure_bind]
      exact if_neg noChild
  | case3 pending noChild => exact absurd rfl (start rfl).2.1
  | case4 chain pending c rest blank ih =>
      have round := chainRound_cons front c rest chain pending
      rw [if_pos blank] at round
      have more := ih (front ++ [c]) fun none => by
        rw [(start none).2.2 c rfl] at blank
        cases blank
      rw [List.append_assoc, List.singleton_append, List.length_append, List.length_singleton] at more
      rw [loop_of_some round]
      exact more
  | case5 chain pending rest misplaced notBlank =>
      have round := chainRound_cons front '>' rest chain pending
      rw [if_neg notBlank, if_pos rfl, if_pos misplaced] at round
      rw [loop_of_throw round, throw_bind]
  | case6 chain pending rest placed notBlank ih =>
      have round := chainRound_cons front '>' rest chain pending
      rw [if_neg notBlank, if_pos rfl, if_neg placed] at round
      have more := ih (front ++ ['>']) fun none => absurd (.inl (none ▸ rfl)) placed
      rw [List.append_assoc, List.singleton_append, List.length_append, List.length_singleton] at more
      rw [loop_of_some round]
      exact more
  | case7 chain pending c rest notBlank notChild unlinked =>
      have round := chainRound_cons front c rest chain pending
      rw [if_neg notBlank, if_neg notChild, if_pos unlinked] at round
      rw [loop_of_throw round, throw_bind]
  | case8 chain pending c rest notBlank notChild linked fault failed =>
      have round := chainRound_cons front c rest chain pending
      rw [if_neg notBlank, if_neg notChild, if_neg linked, compoundAt_append, failed] at round
      rw [loop_of_throw (round.trans (throw_bind _ _)), throw_bind]
  | case9 chain pending c rest notBlank notChild linked compound after read longer shorter ih =>
      obtain ⟨written, whole, -⟩ := writtenAs_of_readCompound read
      have round := chainRound_cons front c rest chain pending
      rw [if_neg notBlank, if_neg notChild, if_neg linked, compoundAt_append, read, whole,
        ← List.append_assoc, ofReading_ok, pure_bind] at round
      have parts : (ofChain chain pending front.length).parts ++ [(pending.getD .descendant, compound)] =
          longer.parts := by
        cases chain with
        | none =>
            rw [(start rfl).1]
            rfl
        | some outer => rfl
      dsimp only at round
      rw [parts] at round
      rw [whole, ← List.append_assoc, loop_of_some round]
      exact ih (front ++ written) fun none => absurd none (Option.some_ne_none _)

theorem scan_eq (source : String) :
    scan source =
      match readChain none none (trim source.toList) with
      | .ok selector => pure selector.parts
      | .error fault => throw (.fault fault) := by
  unfold scan
  dsimp only
  by_cases nothing : trim source.toList = []
  · rw [if_pos nothing, nothing, readChain.eq_def]
    rfl
  · rw [if_neg nothing]
    exact finish_loop_chainRound [] (trim source.toList) none none fun _ =>
      ⟨rfl, nothing, isBlank_head_trim source.toList⟩

theorem meets_scan (source : String) : Meets (fun _ => True) (scan source) := by
  unfold scan
  dsimp only
  split
  · exact .fault (by decide)
  · have ends : Meets (Settled (trim source.toList)) (loop (chainRound (trim source.toList)) {}) := by
      refine Meets.loop (fun state => (trim source.toList).length - state.pos)
        (fun state settled => settled.meets_chainRound.mono fun next? goesOn next here => ?_)
        (settled_start _)
      obtain ⟨settled', later⟩ := goesOn next here
      have inside := settled'.inside
      exact ⟨settled', by omega⟩
    refine ends.bind fun last _ => ?_
    unfold finish
    split
    · exact .fault (by decide)
    · exact .result trivial

/-! ## Matching -/

def partAt (parts : List (Combinator × Compound)) (index : Nat) : Scan (Combinator × Compound) :=
  match parts[index]? with
  | some part => pure part
  | none => throw .outOfRange

def matchesAt (doc : Document κ) (parts : List (Combinator × Compound)) : Nat → NodeId → Scan Bool
  | 0, n => do
      let (_, test) ← partAt parts 0
      return test.holds doc n
  | index + 1, n => do
      let (link, test) ← partAt parts (index + 1)
      if test.holds doc n then
        match link with
        | .child =>
            match doc.parent n with
            | none => return false
            | some parent => matchesAt doc parts index parent
        | .descendant => (doc.ancestors n).anyM (matchesAt doc parts index)
      else return false

def matchesAll (doc : Document κ) (parts : List (Combinator × Compound)) (n : NodeId) : Scan Bool :=
  if parts = [] then throw .outOfRange
  else matchesAt doc parts (parts.length - 1) n

theorem partAt_of_lt {parts : List (Combinator × Compound)} {index : Nat}
    (inside : index < parts.length) : partAt parts index = pure parts[index] := by
  simp [partAt, inside]

def above (doc : Document κ) (n : NodeId) : Combinator → List NodeId
  | .child => (doc.parent n).toList
  | .descendant => doc.ancestors n

theorem selects_under (outer : Selector) (link : Combinator) (test : Compound) (n : NodeId) :
    (outer.under link test).selects doc n =
      (test.holds doc n && (above doc n link).any (outer.selects doc)) := by
  cases link with
  | child => cases link : doc.parent n <;> simp [selects, above, link]
  | descendant => rw [selects, above]

theorem matchesAt_succ {parts : List (Combinator × Compound)} {index : Nat} {link : Combinator}
    {test : Compound} {answer : NodeId → Bool} (part : partAt parts (index + 1) = pure (link, test))
    (outer : ∀ n, matchesAt doc parts index n = pure (answer n)) (n : NodeId) :
    matchesAt doc parts (index + 1) n =
      pure (test.holds doc n && (above doc n link).any answer) := by
  rw [matchesAt, part, pure_bind]
  dsimp only
  cases test.holds doc n with
  | false => rfl
  | true =>
      rw [if_pos rfl, Bool.true_and]
      cases link with
      | child => cases link : doc.parent n <;> simp [outer, above, link]
      | descendant => rw [funext outer, List.anyM_pure, above]

theorem exists_matchesAt_eq {parts : List (Combinator × Compound)} {index : Nat}
    (inside : index < parts.length) :
    ∃ answer : NodeId → Bool, ∀ n, matchesAt doc parts index n = pure (answer n) := by
  induction index with
  | zero => exact ⟨parts[0].2.holds doc, fun n => by rw [matchesAt, partAt_of_lt inside, pure_bind]⟩
  | succ index ih =>
      obtain ⟨answer, outer⟩ := ih (Nat.lt_of_succ_lt inside)
      exact ⟨_, matchesAt_succ (partAt_of_lt inside) outer⟩

theorem matchesAt_parts (selector : Selector) (more : List (Combinator × Compound)) (n : NodeId) :
    matchesAt doc (selector.parts ++ more) (selector.parts.length - 1) n =
      pure (selector.selects doc n) := by
  induction selector generalizing more n with
  | single test => exact pure_bind (Combinator.descendant, test) _
  | under outer link test ih =>
      have positive : 0 < outer.parts.length := List.length_pos_iff.2 outer.parts_ne_nil
      have last : (outer.under link test).parts.length - 1 = outer.parts.length - 1 + 1 := by
        rw [parts, List.length_append, List.length_singleton]
        omega
      have part : partAt (outer.parts ++ (link, test) :: more) (outer.parts.length - 1 + 1) =
          pure (link, test) := by
        rw [Nat.sub_add_cancel positive, partAt]
        simp
      rw [last, parts, List.append_assoc, List.singleton_append, matchesAt_succ part (ih _),
        selects_under]

theorem matchesAll_parts (selector : Selector) (n : NodeId) :
    matchesAll doc selector.parts n = pure (selector.selects doc n) := by
  have whole : matchesAt doc (selector.parts ++ []) (selector.parts.length - 1) n = _ :=
    matchesAt_parts selector [] n
  rw [List.append_nil] at whole
  rw [matchesAll, if_neg selector.parts_ne_nil, whole]

end Scan

open Scan

/-- Every round of the scan gets on, and so does the scan of each compound, which stops where a compound may
end; so no character is unexpected, and nothing is asked for that is not there. The scan of a text comes to
the parts of the selector that is read from it, and there is at least one; matching counts down from the last
of them and asks only for parts that exist. -/
theorem scan_progresses (text : List Char) (source : String) :
    (∀ state, Reached text state →
        Meets (fun next? => ∀ next ∈ next?, state.pos < next.pos ∧ next.pos ≤ text.length)
          (chainRound text state)) ∧
      (∀ start < text.length,
        Meets (fun found => start < found.2 ∧ found.2 ≤ text.length ∧ AtBoundary (text.drop found.2))
          (compoundAt text start)) ∧
      ((∃ selector, parse source = .ok selector ∧ scan source = pure selector.parts ∧
          selector.parts ≠ [] ∧
          ∀ (κ : Type) (doc : Document κ) (n : NodeId),
            matchesAll doc selector.parts n = pure (selector.selects doc n) ∧
              ∀ index < selector.parts.length, ∃ answer,
                matchesAt doc selector.parts index n = pure answer) ∨
        ∃ fault, fault ≠ .unexpectedCharacter ∧ parse source = .error (.selector source fault) ∧
          scan source = throw (.fault fault)) := by
  refine ⟨fun state reached => ?_, fun start => Meets.compoundAt, ?_⟩
  · refine reached.settled.meets_chainRound.mono fun next? goesOn next here => ?_
    obtain ⟨settled, later⟩ := goesOn next here
    exact ⟨later, settled.inside⟩
  · have scanned := scan_eq source
    cases read : readChain none none (trim source.toList) with
    | ok selector =>
        rw [read] at scanned
        refine .inl ⟨selector, by rw [parse, read], scanned, selector.parts_ne_nil, fun κ doc n => ?_⟩
        refine ⟨matchesAll_parts selector n, fun index inside => ?_⟩
        obtain ⟨answer, here⟩ := @exists_matchesAt_eq κ doc _ _ inside
        exact ⟨answer n, here n⟩
    | error fault =>
        rw [read] at scanned
        have meets := meets_scan source
        rw [scanned] at meets
        exact .inr ⟨fault, meets.expected, by rw [parse, read], scanned⟩

end ReportCards.Selector

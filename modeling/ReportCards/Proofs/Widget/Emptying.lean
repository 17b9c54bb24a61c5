import ReportCards.Proofs.Click.Registration
import ReportCards.Proofs.Document.Move
import ReportCards.Proofs.Document.Walks
import ReportCards.Proofs.Widget.Contents

namespace ReportCards
open Document

variable {κ : Type} {doc before after later : Document κ} {n m c : NodeId} {text : String}
  {silenced : List NodeId}

namespace Document

structure Emptied (n : NodeId) (text : String) (silenced : List NodeId) (before after : Document κ) :
    Prop where
  size_eq : after.size = before.size
  registered_eq : after.registered = before.registered
  children_eq : after.children n = []
  ownText_eq : after.ownText n = text
  text_eq : after.text n = text
  self_kept : after.parent n = before.parent n ∧ after.handlers n = before.handlers n
  roots : ∀ c ∈ before.children n, after.parent c = none
  silent : ∀ m ∈ silenced, after.handlers m = []
  parent_kept : ∀ m ∉ before.children n, after.parent m = before.parent m
  children_kept : ∀ m ≠ n, after.children m = before.children m
  handlers_kept : ∀ m ∉ silenced, after.handlers m = before.handlers m
  tag_kept : ∀ m, after.tag m = before.tag m
  classes_kept : ∀ m, after.classes m = before.classes m
  attributes_kept : ∀ m, after.attributes m = before.attributes m
  ownText_kept : ∀ m ≠ n, after.ownText m = before.ownText m
  text_kept : ∀ m ∉ before.path n, after.text m = before.text m

/-! ## Texts -/

theorem IsForest.text_of_leaf (forest : doc.IsForest) (leaf : doc.children n = []) :
    doc.text n = doc.ownText n := by
  rw [forest.text_eq, leaf, List.map_nil, List.foldl_nil]

theorem IsForest.text_kept (forest : before.IsForest) (forest' : after.IsForest)
    (kept : ∀ m ∈ before.preorder n,
      after.children m = before.children m ∧ after.ownText m = before.ownText m) :
    after.text n = before.text n := by
  induction n using forest.downward_induction with
  | step n ih =>
      obtain ⟨children, ownText⟩ := kept n forest.mem_preorder_self
      have below : (before.children n).map after.text = (before.children n).map before.text :=
        List.map_congr_left fun c child =>
          ih c child fun m below => kept m (forest.mem_preorder_of_child child below)
      rw [forest.text_eq, forest'.text_eq, children, ownText, below]

/-! ## Emptied nodes -/

theorem IsForest.emptied (forest : before.IsForest) (forest' : after.IsForest)
    (size_eq : after.size = before.size) (registered_eq : after.registered = before.registered)
    (notSilenced : n ∉ silenced)
    (node_eq : ∀ m, after.node m =
      { before.node m with
        text := if m = n then text else before.ownText m
        children := if m = n then [] else before.children m
        parent := if m ∈ before.children n then none else before.parent m
        handlers := if m ∈ silenced then [] else before.handlers m }) :
    Emptied n text silenced before after := by
  have children_eq : after.children n = [] := by simp [children, node_eq]
  have ownText_eq : after.ownText n = text := by simp [ownText, node_eq]
  have notChild : n ∉ before.children n := by
    rw [forest.mem_children_iff]
    exact forest.parent_ne_self n
  have children_kept (m : NodeId) (different : m ≠ n) : after.children m = before.children m := by
    rw [children, node_eq]
    exact if_neg different
  have ownText_kept (m : NodeId) (different : m ≠ n) : after.ownText m = before.ownText m := by
    rw [ownText, node_eq]
    exact if_neg different
  have parent_kept (m : NodeId) (notChild : m ∉ before.children n) :
      after.parent m = before.parent m := by
    rw [parent, node_eq]
    exact if_neg notChild
  have handlers_kept (m : NodeId) (apart : m ∉ silenced) : after.handlers m = before.handlers m := by
    rw [handlers, node_eq]
    exact if_neg apart
  refine
    { size_eq, registered_eq, children_eq, ownText_eq, children_kept, ownText_kept, parent_kept
      handlers_kept
      text_eq := by rw [forest'.text_of_leaf children_eq, ownText_eq]
      self_kept := ⟨parent_kept n notChild, handlers_kept n notSilenced⟩
      roots := fun c child => by simp [parent, node_eq, child]
      silent := fun m member => by simp [handlers, node_eq, member]
      tag_kept := fun m => by rw [tag, node_eq, tag]
      classes_kept := fun m => by rw [classes, node_eq, classes]
      attributes_kept := fun m => by rw [attributes, node_eq, attributes]
      text_kept := fun m outside => forest.text_kept forest' fun k below => ?_ }
  have different : k ≠ n := by
    rintro rfl
    exact outside (forest.mem_preorder_iff.1 below)
  exact ⟨children_kept k different, ownText_kept k different⟩

end Document

namespace Edit

theorem run_setText_emptied (forest : doc.IsForest) (known : n < doc.size) (text : String) :
    ∃ after, (setText n text).run doc = .ok () after ∧ Emptied n text [] doc after := by
  let cut := (doc.children n).foldl detach doc
  let after := cut.update n fun node => { node with text }
  have run : (setText n text).run doc = .ok () after := rfl
  have forest' : after.IsForest := isForest_of_run forest run
  have knownCut : n < cut.size := by rwa [size_foldl_detach]
  refine ⟨after, run, forest.emptied forest' ?_ ?_ List.not_mem_nil fun m => ?_⟩
  · rw [size_update, size_foldl_detach]
  · exact (KeepsHandlers.foldl_detach (doc.children n) doc).registered_eq
  · have whole := forest.node_foldl_detach (doc.children n) m
    by_cases same : m = n
    · subst same
      rw [node_update_self _ _ knownCut, whole]
      simp [Document.handlers]
    · have apart : ∀ c ∈ doc.children m, c ∉ doc.children n := by
        intro c child child'
        rw [forest.mem_children_iff] at child child'
        rw [child] at child'
        exact same (Option.some.inj child')
      rw [node_update_ne _ _ (Ne.symm same), whole]
      simpa [same, Document.handlers, Document.ownText] using apart

theorem run_clearContents_emptied (forest : doc.IsForest) (n : NodeId) :
    ∃ after, (clearContents n).run doc = .ok () after ∧
      Emptied n "" (doc.descendants n) doc after := by
  obtain ⟨after, run, empties⟩ := run_clearContents_empties forest n
  have forest' : after.IsForest := isForest_of_run forest run
  have registered : after.registered = doc.registered := by
    have kept : (Edit.after (clearContents n) doc).registered = doc.registered :=
      RegistersNone.registered_eq doc
    rwa [Edit.after, run] at kept
  have apart : n ∉ doc.descendants n := forest.not_mem_descendants_self
  refine ⟨after, run, forest.emptied forest' empties.size_eq registered apart fun m => ?_⟩
  simp only [forest.mem_children_iff]
  by_cases same : m = n
  · subst same
    rw [empties.node_eq, if_pos rfl, if_pos rfl, if_neg (forest.parent_ne_self m), if_neg apart]
    rfl
  · rw [empties.node_other m same, if_neg same, if_neg same]
    rfl

/-! ## Children removed one by one -/

/-- The loop that clears a node, without a bound: in each round the last child is released, with all that is
below it, and removed. The loop ends when there is no child left or when a removal is refused, after the
given number of rounds. -/
inductive Drains (n : NodeId) :
    Document κ → Nat → EStateM.Result Error (Document κ) Unit → Prop
  | finished {doc : Document κ} (none : (doc.children n).getLast? = none) :
      Drains n doc 0 ((setText n "").run doc)
  | refused {doc later : Document κ} {c : NodeId} {call : Call (Document κ)} {error : Error}
      (last : (doc.children n).getLast? = some c) (releases : Releases [c] doc call)
      (removal : (remove n c).run call.result = .error error later) :
      Drains n doc 1 (.error error later)
  | round {doc later : Document κ} {c : NodeId} {call : Call (Document κ)} {rounds : Nat}
      {outcome : EStateM.Result Error (Document κ) Unit}
      (last : (doc.children n).getLast? = some c) (releases : Releases [c] doc call)
      (removal : (remove n c).run call.result = .ok () later) (rest : Drains n later rounds outcome) :
      Drains n doc (rounds + 1) outcome

theorem eq_of_lastCall {c c' : NodeId} {call call' : Call (Document κ)}
    (last : (doc.children n).getLast? = some c) (releases : Releases [c] doc call)
    (last' : (doc.children n).getLast? = some c') (releases' : Releases [c'] doc call') :
    c' = c ∧ call' = call := by
  -- There is one last child and one way to release it, so a round cannot go differently.
  cases last.symm.trans last'
  exact ⟨rfl, (releases.unique releases').symm⟩

theorem Drains.unique {rounds rounds' : Nat} {outcome outcome' : EStateM.Result Error (Document κ) Unit}
    (first : Drains n doc rounds outcome) (second : Drains n doc rounds' outcome') :
    rounds' = rounds ∧ outcome' = outcome := by
  induction first generalizing rounds' outcome' with
  | finished none =>
      cases second with
      | finished => exact ⟨rfl, rfl⟩
      | refused last | round last => rw [none] at last; cases last
  | refused last releases removal =>
      cases second with
      | finished none => rw [none] at last; cases last
      | refused last' releases' removal' =>
          obtain ⟨rfl, rfl⟩ := eq_of_lastCall last releases last' releases'
          cases removal.symm.trans removal'
          exact ⟨rfl, rfl⟩
      | round last' releases' removal' =>
          obtain ⟨rfl, rfl⟩ := eq_of_lastCall last releases last' releases'
          cases removal.symm.trans removal'
  | round last releases removal _ ih =>
      cases second with
      | finished none => rw [none] at last; cases last
      | refused last' releases' removal' =>
          obtain ⟨rfl, rfl⟩ := eq_of_lastCall last releases last' releases'
          cases removal.symm.trans removal'
      | round last' releases' removal' rest' =>
          obtain ⟨rfl, rfl⟩ := eq_of_lastCall last releases last' releases'
          cases removal.symm.trans removal'
          obtain ⟨rfl, rfl⟩ := ih rest'
          exact ⟨rfl, rfl⟩

theorem exists_round (forest : doc.IsForest) (link : doc.parent c = some n) :
    ∃ call later, Releases [c] doc call ∧ (remove n c).run call.result = .ok () later ∧
      (releaseHandlers c >>= fun _ => remove n c).run doc = .ok () later ∧ Cuts n [c] doc later := by
  obtain ⟨later, run, cuts⟩ := run_remove_released link
  obtain ⟨call, ⟨releases, visited, released, -⟩, -⟩ :=
    forest.exists_releases (known_of_parent link) fun _ => rfl
  rw [visited, List.flatMap_singleton] at released
  have released' : (releaseHandlers c).run doc = .ok PUnit.unit call.result := released
  refine ⟨call, later, releases, ?_, run, cuts⟩
  rw [← run, run_bind_of_ok released']

theorem drains_of_children (forest : doc.IsForest) {nodes : List NodeId}
    (children : doc.children n = nodes.reverse) :
    Drains n doc nodes.length
      (((nodes.forM fun c => releaseHandlers c >>= fun _ => remove n c) >>= fun _ =>
        setText n "").run doc) := by
  induction nodes generalizing doc with
  | nil => exact .finished (by rw [children]; rfl)
  | cons c nodes ih =>
      have last : (doc.children n).getLast? = some c := by
        rw [children, List.reverse_cons, List.getLast?_concat]
      have link : doc.parent c = some n :=
        (forest.mem_children_iff n c).1 (List.mem_of_getLast? last)
      have distinct := forest.nodup_children n
      rw [children, List.nodup_reverse, List.nodup_cons] at distinct
      obtain ⟨call, later, releases, removal, run, cuts⟩ := exists_round forest link
      have forest' : later.IsForest := isForest_of_run forest run
      have children' : later.children n = nodes.reverse := by
        rw [cuts.children_eq, if_pos rfl, children, List.reverse_cons, List.filter_append]
        have kept : nodes.reverse.filter (· ∉ [c]) = nodes.reverse := by
          refine List.filter_eq_self.2 fun other member => decide_eq_true fun same => ?_
          rw [List.mem_singleton] at same
          exact distinct.1 (same ▸ List.mem_reverse.1 member)
        rw [kept]
        simp
      have rest := ih forest' children'
      rw [forM_cons, bind_assoc, run_bind_of_ok run]
      exact .round last releases removal rest

theorem drains_iff (forest : doc.IsForest) {rounds : Nat}
    {outcome : EStateM.Result Error (Document κ) Unit} :
    Drains n doc rounds outcome ↔
      rounds = (doc.children n).length ∧ outcome = (clearContents n).run doc := by
  have drains := drains_of_children forest (List.reverse_reverse (doc.children n)).symm
  rw [List.length_reverse] at drains
  have same : (clearContents n).run doc =
      (((doc.children n).reverse.forM fun c => releaseHandlers c >>= fun _ => remove n c) >>= fun _ =>
        setText n "").run doc := by
    rw [clearContents, EStateM.run_bind, EStateM.run_get]
  rw [same]
  constructor
  · exact drains.unique
  · rintro ⟨rfl, rfl⟩
    exact drains

/-- Clearing a node ends after as many rounds as the node has children. It silences all that was below, and
setting a text silences nothing; otherwise both do the same. -/
theorem emptied_exactly (reachable : doc.Reachable) (known : n < doc.size) (text : String) :
    (∃ after, (clearContents n).run doc = .ok () after ∧
      Emptied n "" (doc.descendants n) doc after ∧
      ∀ rounds outcome, Drains n doc rounds outcome ↔
        rounds = (doc.children n).length ∧ outcome = .ok () after) ∧
    ∃ after, (setText n text).run doc = .ok () after ∧ Emptied n text [] doc after := by
  have forest := reachable.isForest
  obtain ⟨after, run, emptied⟩ := run_clearContents_emptied forest n
  refine ⟨⟨after, run, emptied, fun rounds outcome => ?_⟩, run_setText_emptied forest known text⟩
  rw [drains_iff forest, run]

def linkedList : Edit Unit Unit := do
  let list ← create "ul"
  let item ← create "li"
  let link ← create "a"
  setText link "more"
  append list item
  append item link
  onClick list ()
  onClick link ()

theorem reachable_linkedList : (linkedList.after {}).Reachable := by
  have stepwise : linkedList.Stepwise := by
    unfold linkedList
    infer_instance
  exact stepwise.changes {}

theorem emptied_exactly_linkedList :
    let doc := linkedList.after {}
    doc.Reachable ∧ 0 < doc.size ∧
      (∃ cleared, (clearContents 0).run doc = .ok () cleared ∧ Drains 0 doc 1 (.ok () cleared) ∧
        cleared.parent 1 = none ∧ cleared.children 1 = [2] ∧ cleared.text 1 = "more" ∧
        cleared.handlers 0 = [⟨0, ()⟩] ∧ cleared.handlers 2 = []) ∧
      ∃ labelled, (setText 0 "none").run doc = .ok () labelled ∧ labelled.text 0 = "none" ∧
        labelled.parent 1 = none ∧ labelled.handlers 2 = [⟨1, ()⟩] := by
  intro doc
  have reachable : doc.Reachable := reachable_linkedList
  have known : 0 < doc.size := by decide
  obtain ⟨⟨cleared, run, emptied, drains⟩, labelled, run', emptied'⟩ :=
    emptied_exactly reachable known "none"
  have item : 1 ∈ doc.children 0 := by decide
  refine ⟨reachable, known, ⟨cleared, run, ?_, emptied.roots 1 item, ?_, ?_, ?_, ?_⟩,
    labelled, run', emptied'.text_eq, emptied'.roots 1 item, ?_⟩
  · exact (drains 1 _).2 ⟨by decide, rfl⟩
  · rw [emptied.children_kept 1 (by decide)]
    decide
  · rw [emptied.text_kept 1 (by decide)]
    decide +kernel
  · rw [emptied.self_kept.2]
    decide
  · exact emptied.silent 2 (by decide)
  · rw [emptied'.handlers_kept 2 (by decide)]
    decide

end Edit
end ReportCards

import ReportCards.Proofs.Click.Settle
import ReportCards.Proofs.Document.Frame
import ReportCards.Proofs.Document.Move
import ReportCards.Session.Play

namespace ReportCards
open Relation Document

variable {κ : Type} {doc before after : Document κ} {session : Session} {n m p : NodeId}

namespace Session

/-! ## Worlds of sessions -/

inductive Arrives : World Reaction Session → Prop
  | start (host : Session) : Arrives { document := {}, host }
  | play {world : World Reaction Session} (earlier : Arrives world) (step : Step) :
      Arrives (Session.play world step).2.2

theorem world_play (world : World Reaction Session) (step : Step) :
    ∃ host, (play world step).2.2 =
      ((Machine.start { document := world.document, host } (playStep step)).run behaviour
        greatestMoves).world := by
  refine ⟨{ world.host with log := #[] }, ?_⟩
  unfold play
  dsimp only
  split <;> rfl

theorem Arrives.exists_machine {world : World Reaction Session} (arrives : Arrives world) :
    ∃ machine : Machine Reaction Session, machine.Reachable behaviour ∧ machine.world = world := by
  induction arrives with
  | start host => exact ⟨_, .first host (.done ()), rfl⟩
  | @play world earlier step ih =>
      obtain ⟨machine, reachable, rfl⟩ := ih
      obtain ⟨host, arrived⟩ := world_play machine.world step
      exact ⟨_, (reachable.restart host (playStep step)).run greatestMoves, arrived.symm⟩

theorem Arrives.reachable {world : World Reaction Session} (arrives : Arrives world) :
    world.document.Reachable := by
  obtain ⟨machine, reachable, rfl⟩ := arrives.exists_machine
  exact reachable.document

/-! ## Nodes that a session keeps -/

def Keeps (session : Session) (doc : Document κ) (n : NodeId) : Prop :=
  ∃ m ∈ doc.path n, session.holds m = true

/-- Whether a node is a stray can be seen at the node itself. -/
theorem exists_strays_eq (session : Session) (doc : Document κ) :
    ∃ stray? : NodeId → Option (NodeId × NodeId),
      session.strays doc = session.met.toList.filterMap stray? ∧
        ∀ m pair, stray? m = some pair ↔
          pair.2 = m ∧ doc.parent m = some pair.1 ∧ ¬ session.Keeps doc pair.1 := by
  refine ⟨_, rfl, fun m pair => ?_⟩
  have keeps (q : NodeId) : (session.holds q || (doc.ancestors q).any session.holds) = true ↔
      session.Keeps doc q := by
    rw [Keeps, ← List.any_eq_true, path, List.any_cons]
  cases link : doc.parent m with
  | none => simp
  | some q =>
      by_cases kept : session.Keeps doc q
      · simp only [(keeps q).2 kept, if_true]
        constructor
        · intro found
          cases found
        · rintro ⟨-, same, lost⟩
          cases same
          exact absurd kept lost
      · simp only [mt (keeps q).1 kept]
        constructor
        · intro found
          cases found
          exact ⟨rfl, rfl, kept⟩
        · rintro ⟨rfl, same, -⟩
          cases same
          rfl

theorem mem_strays_iff : (p, n) ∈ session.strays doc ↔
    n ∈ session.met ∧ doc.parent n = some p ∧ ¬ session.Keeps doc p := by
  obtain ⟨stray?, strays, isStray⟩ := session.exists_strays_eq doc
  simp only [strays, List.mem_filterMap, isStray, Std.HashSet.mem_toList]
  constructor
  · rintro ⟨m, member, rfl, link⟩
    exact ⟨member, link⟩
  · rintro ⟨member, link⟩
    exact ⟨n, member, rfl, link⟩

theorem nodup_strays (session : Session) (doc : Document κ) :
    ((session.strays doc).map Prod.snd).Nodup := by
  obtain ⟨stray?, strays, isStray⟩ := session.exists_strays_eq doc
  have distinct : session.met.toList.Nodup :=
    Std.HashSet.distinct_toList.imp fun apart => by simpa using apart
  rw [strays, List.map_filterMap]
  refine distinct.filterMap fun m m' last found found' => ?_
  rw [Option.mem_def, Option.map_eq_some_iff] at found found'
  obtain ⟨pair, found, rfl⟩ := found
  obtain ⟨pair', found', same⟩ := found'
  rw [← ((isStray m pair).1 found).1, ← same, ((isStray m' pair').1 found').1]

def cutOff (session : Session) (doc : Document κ) : List NodeId :=
  (session.strays doc).map Prod.snd

theorem mem_cutOff_iff : n ∈ session.cutOff doc ↔
    n ∈ session.met ∧ ∃ p, doc.parent n = some p ∧ ¬ session.Keeps doc p := by
  rw [cutOff, List.mem_map]
  constructor
  · rintro ⟨⟨p, m⟩, stray, rfl⟩
    obtain ⟨met, link⟩ := mem_strays_iff.1 stray
    exact ⟨met, p, link⟩
  · rintro ⟨met, p, link⟩
    exact ⟨(p, n), mem_strays_iff.2 ⟨met, link⟩, rfl⟩

/-! ## Giving up -/

theorem completes_remove (pairs : List (NodeId × NodeId)) (doc : Document (Action Reaction))
    (links : ∀ p c, (p, c) ∈ pairs → doc.parent c = some p) (distinct : (pairs.map Prod.snd).Nodup)
    (host : Session) :
    Program.Completes behaviour { document := doc, host }
      (pairs.forM fun (p, c) => .perform (.remove p c) fun _ => .done ())
      { document := (pairs.map Prod.snd).foldl detach doc, host } := by
  induction pairs generalizing doc with
  | nil => exact fun _ _ _ => .refl
  | cons pair pairs ih =>
      obtain ⟨p, c⟩ := pair
      rw [List.map_cons, List.nodup_cons] at distinct
      have first : Program.Completes behaviour { document := doc, host }
          (.perform (.remove p c) fun _ => .done ()) { document := doc.detach c, host } := by
        have link := links p c List.mem_cons_self
        have removed : Program.Completes behaviour { document := doc, host } _ _ :=
          Program.completes_perform (.remove p c) doc host
        rwa [Operation.apply, Operation.edit, Edit.run_remove link] at removed
      refine first.bind (ih (doc.detach c) (fun q d member => ?_) distinct.2)
      have different : d ≠ c := by
        rintro rfl
        exact distinct.1 (List.mem_map.2 ⟨_, member, rfl⟩)
      rw [parent_detach, if_neg different]
      exact links q d (List.mem_cons_of_mem _ member)

/-- What the session keeps looks as before. Only nodes that it met lose their parents, and those that
still have one afterwards are below something that it holds. -/
structure GivesUp (session : Session) (before after : Document κ) : Prop where
  node_eq : ∀ n, session.Keeps before n →
    after.node n = { before.node n with parent := after.parent n }
  element_eq : ∀ n, session.Keeps before n → after.element n = before.element n
  parent_eq : ∀ n, after.parent n = before.parent n ∨ n ∈ session.met ∧ after.parent n = none
  keeps_iff : ∀ n, session.Keeps after n ↔ session.Keeps before n
  none_left : session.strays after = []

theorem Keeps.of_mem_path (forest : doc.IsForest) (kept : session.Keeps doc m) (above : m ∈ doc.path n) :
    session.Keeps doc n := by
  obtain ⟨k, higher, held⟩ := kept
  exact ⟨k, forest.mem_path_trans above higher, held⟩

section

variable (forest : before.IsForest) (forest' : after.IsForest)
  (parent : ∀ n, after.parent n = if n ∈ session.cutOff before then none else before.parent n)
include forest forest' parent

theorem keeps_iff_of_parent : session.Keeps after n ↔ session.Keeps before n := by
  constructor
  · rintro ⟨m, above, held⟩
    refine ⟨m, forest.mem_path_iff.2 ?_, held⟩
    refine ReflTransGen.mono (fun a b link => ?_) _ _ (forest'.mem_path_iff.1 above)
    rw [parent] at link
    split at link
    · cases link
    · exact link
  · rintro ⟨m, above, held⟩
    refine ⟨m, ?_, held⟩
    -- Nothing on the way up to a node that is held is a stray.
    rw [forest.mem_path_iff] at above
    induction above using ReflTransGen.head_induction_on with
    | refl => exact after.mem_path_self m
    | @head a b link rest ih =>
        have stays : a ∉ session.cutOff before := by
          intro stray
          obtain ⟨-, q, link', lost⟩ := mem_cutOff_iff.1 stray
          rw [link] at link'
          cases link'
          exact lost ⟨m, forest.mem_path_iff.2 rest, held⟩
        rw [forest'.path_of_parent ((parent a).trans ((if_neg stays).trans link))]
        exact List.mem_cons_of_mem a ih

theorem strays_eq_nil_of_parent : session.strays after = [] := by
  rw [List.eq_nil_iff_forall_not_mem]
  rintro ⟨p, n⟩ stray
  obtain ⟨met, link, lost⟩ := mem_strays_iff.1 stray
  rw [keeps_iff_of_parent forest forest' parent] at lost
  rw [parent] at link
  split at link
  · cases link
  · rename_i stays
    exact stays (mem_cutOff_iff.2 ⟨met, p, link, lost⟩)

end

theorem givesUp_foldl_detach (forest : doc.IsForest) (session : Session) :
    session.GivesUp doc ((session.cutOff doc).foldl detach doc) := by
  have node := forest.node_foldl_detach (session.cutOff doc)
  have forest' := forest.foldl_detach (session.cutOff doc)
  generalize (session.cutOff doc).foldl detach doc = after at node forest' ⊢
  have parent (n : NodeId) : after.parent n =
      if n ∈ session.cutOff doc then none else doc.parent n := by
    rw [Document.parent, node]
  have node_eq (n : NodeId) (kept : session.Keeps doc n) :
      after.node n = { doc.node n with parent := after.parent n } := by
    have children : (doc.children n).filter (· ∉ session.cutOff doc) = doc.children n := by
      refine List.filter_eq_self.2 fun c child => decide_eq_true fun stray => ?_
      obtain ⟨-, p, link, lost⟩ := mem_cutOff_iff.1 stray
      rw [(forest.mem_children_iff n _).1 child] at link
      cases link
      exact lost kept
    rw [node, children, parent]
    rfl
  refine
    { node_eq
      element_eq := fun n kept => forest.element_kept forest' fun m below => ?_
      parent_eq := fun n => ?_
      keeps_iff := fun n => keeps_iff_of_parent forest forest' parent
      none_left := strays_eq_nil_of_parent forest forest' parent }
  · rw [content, node_eq m (kept.of_mem_path forest (forest.mem_preorder_iff.1 below)), content]
  · rw [parent]
    split
    · rename_i stray
      exact .inr ⟨(mem_cutOff_iff.1 stray).1, rfl⟩
    · exact .inl rfl

/-- Giving up ends, whatever else is going on, and shows nowhere in what the session keeps. -/
theorem giveUp_completes {world : World Reaction Session} (forest : world.document.IsForest) :
    ∃ after, giveUp.Completes behaviour world { world with document := after } ∧
      world.host.GivesUp world.document after := by
  obtain ⟨doc, session⟩ := world
  refine ⟨_, ?_, givesUp_foldl_detach forest session⟩
  intro handler next rest
  refine .head rfl ?_
  exact completes_remove (session.strays doc) doc
    (fun p c stray => (mem_strays_iff.1 stray).2.1) (session.nodup_strays doc) session handler next rest

end Session
end ReportCards

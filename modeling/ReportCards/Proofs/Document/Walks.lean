import Mathlib.Data.List.MinMax
import Mathlib.Order.Nat
import ReportCards.Proofs.Click.Reachable
import ReportCards.Proofs.Document.Order
import ReportCards.Proofs.Document.Run
import ReportCards.Selector.Basic

/-!
# Walks without a bound

The walks through a document are cut off at its size. Here they are without that bound: a loop that climbs
from parent to parent, a recursion from a node to its children, and the one that drops handlers on its way.
In a document with a cycle none of them needs to end. In a forest all do, after no more rounds and on no
more levels than there are nodes, and the bounded walks are what they come to: `Reachable.walks_end`.
-/
namespace ReportCards
open Relation Document

variable {κ α : Type} {doc : Document κ} {n : NodeId}

namespace Document

/-! ## Climbing -/

/-- A loop that looks at a node and then at its parent, until it has found what it looks for or has come
past a root. It has looked at the listed nodes, and the last argument says whether it has found anything. -/
inductive Climbs (doc : Document κ) (found : NodeId → Bool) :
    Option NodeId → List NodeId → Bool → Prop
  | past : Climbs doc found none [] false
  | found {n : NodeId} (here : found n = true) : Climbs doc found (some n) [n] true
  | up {n : NodeId} {visited : List NodeId} {result : Bool} (notHere : found n = false)
      (rest : Climbs doc found (doc.parent n) visited result) :
      Climbs doc found (some n) (n :: visited) result

theorem Climbs.unique {found : NodeId → Bool} {start : Option NodeId} {visited visited' : List NodeId}
    {result result' : Bool} (first : doc.Climbs found start visited result)
    (second : doc.Climbs found start visited' result') : visited' = visited ∧ result' = result := by
  induction first generalizing visited' result' with
  | past => cases second; exact ⟨rfl, rfl⟩
  | found here =>
      cases second with
      | found => exact ⟨rfl, rfl⟩
      | up notHere => rw [here] at notHere; cases notHere
  | up notHere _ ih =>
      cases second with
      | found here => rw [here] at notHere; cases notHere
      | up _ rest =>
          obtain ⟨rfl, rfl⟩ := ih rest
          exact ⟨rfl, rfl⟩

theorem Climbs.unique_iff {found : NodeId → Bool} {start : Option NodeId} {visited : List NodeId}
    {result : Bool} (climbs : doc.Climbs found start visited result) (other : List NodeId)
    (answer : Bool) : doc.Climbs found start other answer ↔ other = visited ∧ answer = result := by
  refine ⟨climbs.unique, ?_⟩
  rintro ⟨rfl, rfl⟩
  exact climbs

namespace IsForest

variable (forest : doc.IsForest)
include forest

theorem climbs (found : NodeId → Bool) (n : NodeId) :
    ∃ visited, doc.Climbs found (some n) visited ((doc.path n).any found) ∧ visited <+: doc.path n := by
  induction n using forest.upward_induction with
  | step n ih =>
      cases here : found n with
      | true =>
          refine ⟨[n], ?_, List.prefix_append [n] _⟩
          rw [path, List.any_cons, here]
          exact .found here
      | false =>
          cases link : doc.parent n with
          | none =>
              refine ⟨[n], ?_, List.prefix_append [n] _⟩
              rw [path, forest.ancestors_of_root link, List.any_cons, here]
              exact .up here (link ▸ .past)
          | some p =>
              obtain ⟨visited, climbs, initial⟩ := ih p link
              refine ⟨n :: visited, ?_, ?_⟩
              · rw [forest.path_of_parent link, List.any_cons, here]
                exact .up here (link ▸ climbs)
              · rw [forest.path_of_parent link]
                exact List.cons_prefix_cons.2 ⟨rfl, initial⟩

theorem climbs_parent (found : NodeId → Bool) (n : NodeId) :
    ∃ visited, doc.Climbs found (doc.parent n) visited ((doc.ancestors n).any found) ∧
      visited <+: doc.ancestors n := by
  cases link : doc.parent n with
  | none =>
      rw [forest.ancestors_of_root link]
      exact ⟨[], .past, List.nil_prefix⟩
  | some p =>
      rw [forest.ancestors_of_parent link]
      exact forest.climbs found p

theorem climbs_ancestors (n : NodeId) :
    doc.Climbs (fun _ => false) (doc.parent n) (doc.ancestors n) false := by
  induction n using forest.upward_induction with
  | step n ih =>
      cases link : doc.parent n with
      | none =>
          rw [forest.ancestors_of_root link]
          exact .past
      | some p =>
          rw [forest.ancestors_of_parent link]
          exact .up rfl (ih p link)

theorem length_ancestors_lt (known : n < doc.size) : (doc.ancestors n).length < doc.size :=
  forest.length_ancestorsWithin_lt doc.size known

theorem length_path_le (known : n < doc.size) : (doc.path n).length ≤ doc.size :=
  forest.length_ancestors_lt known

end IsForest

/-! ## Recursion -/

structure Call (α : Type) where
  result : α
  visited : List NodeId
  levels : Nat

structure Call.Covers (doc : Document κ) (n : NodeId) (call : Call α) : Prop where
  nodup_visited : call.visited.Nodup
  mem_visited_iff : ∀ m, m ∈ call.visited ↔ ReflTransGen doc.HasChild n m
  levels_le_size : call.levels ≤ doc.size

/-- A recursion that puts its result at a node together from its results at the children. -/
inductive Recurs (doc : Document κ) (combine : NodeId → List α → α) : NodeId → Call α → Prop
  | node {n : NodeId} {below : List (Call α)}
      (children : List.Forall₂ (Recurs doc combine) (doc.children n) below) :
      Recurs doc combine n
        { result := combine n (below.map Call.result)
          visited := n :: below.flatMap Call.visited
          levels := (below.map Call.levels).foldr max 0 + 1 }

theorem eq_of_forall₂ {β : Type} {holds : NodeId → β → Prop} {nodes : List NodeId} {first second : List β}
    (unique : ∀ n ∈ nodes, ∀ a b, holds n a → holds n b → a = b)
    (toFirst : List.Forall₂ holds nodes first) (toSecond : List.Forall₂ holds nodes second) :
    first = second := by
  induction toFirst generalizing second with
  | nil => cases toSecond; rfl
  | cons head _ ih =>
      cases toSecond with
      | cons head' tail' =>
          rw [unique _ List.mem_cons_self _ _ head head',
            ih (fun n member => unique n (List.mem_cons_of_mem _ member)) tail']

namespace IsForest

variable (forest : doc.IsForest) {combine : NodeId → List α → α}
include forest

theorem covers_of_visited {call : Call α} (visited : call.visited = doc.preorder n)
    (levels : call.levels + (doc.ancestors n).length ≤ doc.size) : call.Covers doc n where
  nodup_visited := visited ▸ forest.nodup_preorder n
  mem_visited_iff m := by rw [visited, forest.mem_preorder_iff, forest.reflTransGen_hasChild_iff]
  levels_le_size := Nat.le_of_add_right_le levels

theorem recurs_unique {first second : Call α} (toFirst : doc.Recurs combine n first)
    (toSecond : doc.Recurs combine n second) : first = second := by
  induction n using forest.downward_induction generalizing first second with
  | step n ih =>
      cases toFirst with
      | node children =>
          cases toSecond with
          | node children' =>
              rw [eq_of_forall₂ (fun c child _ _ => ih c child) children children']

theorem exists_recurs {f : NodeId → α} (eq : ∀ n, f n = combine n ((doc.children n).map f))
    (known : n < doc.size) :
    ∃ call, doc.Recurs combine n call ∧ call.result = f n ∧ call.visited = doc.preorder n ∧
      call.levels + (doc.ancestors n).length ≤ doc.size := by
  induction n using forest.downward_induction with
  | step n ih =>
      have linked (c : NodeId) (child : c ∈ doc.children n) : doc.parent c = some n :=
        (forest.mem_children_iff n c).1 child
      have : Nonempty (Call α) := ⟨{ result := f n, visited := [], levels := 0 }⟩
      choose! call recurs result visited levels using
        fun c child => ih c child (known_of_parent (linked c child))
      have below : List.Forall₂ (doc.Recurs combine) (doc.children n) ((doc.children n).map call) := by
        rw [List.forall₂_map_right_iff, List.forall₂_same]
        exact recurs
      refine ⟨_, .node below, ?_, ?_, ?_⟩
      · rw [eq, List.map_map]
        exact congrArg (combine n) (List.map_congr_left result)
      · rw [forest.preorder_eq, List.flatMap_map]
        exact congrArg (List.cons n) (List.flatMap_congr visited)
      · have deepest : (((doc.children n).map call).map Call.levels).foldr max 0 ≤
            doc.size - (doc.ancestors n).length - 1 := by
          apply List.max_le_of_forall_le (((doc.children n).map call).map Call.levels)
          intro level member
          rw [List.map_map] at member
          obtain ⟨c, child, rfl⟩ := List.mem_map.1 member
          have bound := levels c child
          rw [forest.depth_child (linked c child)] at bound
          rw [Function.comp_apply]
          omega
        have bound := forest.length_ancestors_lt known
        change (((doc.children n).map call).map Call.levels).foldr max 0 + 1 + _ ≤ _
        omega

end IsForest

/-! ## Releasing handlers -/

def withoutHandlers (doc : Document κ) (n : NodeId) : Document κ :=
  doc.update n fun node => { node with handlers := [] }

theorem children_withoutHandlers (doc : Document κ) (n m : NodeId) :
    (doc.withoutHandlers n).children m = doc.children m := by
  rw [withoutHandlers, children, children, node_update]
  split <;> rfl

/-- Nodes lose their handlers, each before the nodes that are below it in the document as it is then. -/
inductive Releases : List NodeId → Document κ → Call (Document κ) → Prop
  | nil (doc : Document κ) : Releases [] doc { result := doc, visited := [], levels := 0 }
  | cons {n : NodeId} {rest : List NodeId} {doc : Document κ} {below beside : Call (Document κ)}
      (inside : Releases ((doc.withoutHandlers n).children n) (doc.withoutHandlers n) below)
      (after : Releases rest below.result beside) :
      Releases (n :: rest) doc
        { result := beside.result
          visited := n :: below.visited ++ beside.visited
          levels := max (below.levels + 1) beside.levels }

theorem Releases.unique {nodes : List NodeId} {first second : Call (Document κ)}
    (toFirst : Releases nodes doc first) (toSecond : Releases nodes doc second) : first = second := by
  induction toFirst generalizing second with
  | nil => cases toSecond; rfl
  | cons _ _ inside after =>
      cases toSecond with
      | cons inside' after' =>
          cases inside inside'
          cases after after'
          rfl

theorem run_forM_append {edit : NodeId → Edit κ PUnit} {nodes others : List NodeId}
    {middle after : Document κ} (first : (nodes.forM edit).run doc = .ok PUnit.unit middle)
    (second : (others.forM edit).run middle = .ok PUnit.unit after) :
    ((nodes ++ others).forM edit).run doc = .ok PUnit.unit after := by
  rw [List.forM_eq_forM] at first
  rw [List.forM_eq_forM, List.forM_append, Edit.run_bind_of_ok first]
  exact second

structure ReleasesSubtrees (doc : Document κ) (nodes : List NodeId) (current : Document κ)
    (call : Call (Document κ)) : Prop where
  releases : Releases nodes current call
  visited_eq : call.visited = nodes.flatMap doc.preorder
  run_eq : (call.visited.forM Edit.clearHandlers).run current = .ok PUnit.unit call.result
  children_eq : ∀ m, call.result.children m = doc.children m

theorem exists_releasesSubtrees {nodes : List NodeId} {levels : Nat} {current : Document κ}
    (each : ∀ n ∈ nodes, ∀ current : Document κ, (∀ m, current.children m = doc.children m) →
      ∃ call, doc.ReleasesSubtrees [n] current call ∧ call.levels ≤ levels)
    (same : ∀ m, current.children m = doc.children m) :
    ∃ call, doc.ReleasesSubtrees nodes current call ∧ call.levels ≤ levels := by
  induction nodes generalizing current with
  | nil => exact ⟨_, ⟨.nil current, rfl, rfl, same⟩, Nat.zero_le _⟩
  | cons n nodes ih =>
      obtain ⟨first, ⟨releases, visited, run, same⟩, low⟩ := each n List.mem_cons_self current same
      obtain ⟨second, ⟨releases', visited', run', same'⟩, low'⟩ :=
        ih (fun n member => each n (List.mem_cons_of_mem _ member)) same
      cases releases with
      | cons inside after =>
          cases after
          refine ⟨_, ⟨.cons inside releases', ?_, ?_, same'⟩, ?_⟩
          · rw [visited', List.flatMap_cons, ← List.flatMap_singleton doc.preorder n, ← visited,
              List.append_nil]
          · rw [List.append_nil] at run
            exact run_forM_append run run'
          · simp only [Nat.max_zero] at low
            exact Nat.max_le.2 ⟨low, low'⟩

namespace IsForest

variable (forest : doc.IsForest)
include forest

theorem exists_releases (known : n < doc.size) {current : Document κ}
    (same : ∀ m, current.children m = doc.children m) :
    ∃ call, doc.ReleasesSubtrees [n] current call ∧
      call.levels ≤ doc.size - (doc.ancestors n).length := by
  induction n using forest.downward_induction generalizing current with
  | step n ih =>
      have linked (c : NodeId) (child : c ∈ doc.children n) : doc.parent c = some n :=
        (forest.mem_children_iff n c).1 child
      have same' (m : NodeId) : (current.withoutHandlers n).children m = doc.children m := by
        rw [children_withoutHandlers, same]
      have each : ∀ c ∈ doc.children n, ∀ current : Document κ,
          (∀ m, current.children m = doc.children m) → ∃ call, doc.ReleasesSubtrees [c] current call ∧
            call.levels ≤ doc.size - (doc.ancestors n).length - 1 := by
        intro c child current same
        obtain ⟨call, releases, low⟩ := ih c child (known_of_parent (linked c child)) same
        rw [forest.depth_child (linked c child)] at low
        exact ⟨call, releases, low⟩
      obtain ⟨call, ⟨releases, visited, run, same''⟩, low⟩ := exists_releasesSubtrees each same'
      rw [← same' n] at releases
      refine ⟨_, ⟨.cons releases (.nil _), ?_, ?_, same''⟩, ?_⟩
      · rw [List.append_nil, visited, List.flatMap_singleton, forest.preorder_eq]
      · rw [List.append_nil]
        exact run
      · have bound := forest.length_ancestors_lt known
        simp only [Nat.max_zero]
        omega

end IsForest

/-! ## All walks -/

def Finds (doc : Document κ) (found : NodeId → Bool) (start : Option NodeId) (result : Bool) : Prop :=
  ∃ visited, (∀ other answer, doc.Climbs found start other answer ↔ other = visited ∧ answer = result) ∧
    visited.length ≤ doc.size

def Computes (doc : Document κ) (combine : NodeId → List α → α) (n : NodeId) (result : α) : Prop :=
  ∃ call, (∀ other, doc.Recurs combine n other ↔ other = call) ∧ call.result = result ∧ call.Covers doc n

def openingTag (doc : Document κ) (n : NodeId) : List Char :=
  '<' :: (doc.tag n).toList
    ++ Element.attributesMarkup ((doc.attributes n).lookup "id") (doc.classes n)
      ((doc.attributes n).filter (·.1 ≠ "id"))
    ++ ['>']

def closingTag (doc : Document κ) (n : NodeId) : List Char :=
  ['<', '/'] ++ (doc.tag n).toList ++ ['>']

structure WalksEnd (doc : Document κ) (n : NodeId) : Prop where
  contains : ∀ a, doc.Finds (a == ·) (some n) (doc.contains a n)
  path : ∃ above, (∀ visited answer, doc.Climbs (fun _ => false) (doc.parent n) visited answer ↔
    visited = above ∧ answer = false) ∧ doc.path n = n :: above ∧ above.length ≤ doc.size
  descendantLink : ∀ outer test, test.holds doc n = true → doc.Finds (outer.selects doc) (doc.parent n)
    (Selector.selects doc (.under outer .descendant test) n)
  descendants : doc.Computes (fun n below => ((doc.children n).zipWith List.cons below).flatten) n
    (doc.descendants n)
  text : doc.Computes (fun n below => below.foldl (· ++ ·) (doc.ownText n)) n (doc.text n)
  outerHtml : doc.Computes (fun n below => doc.openingTag n ++ Markup.escapeText (doc.ownText n).toList
    ++ below.flatten ++ doc.closingTag n) n (doc.outerHtml n).toList
  innerHtml : doc.Computes (fun n below => Markup.escapeText (doc.ownText n).toList
    ++ ((doc.children n).zipWith (fun c inner => doc.openingTag c ++ inner ++ doc.closingTag c)
      below).flatten) n (doc.innerHtml n).toList
  release : ∃ call, (∀ other, Releases [n] doc other ↔ other = call) ∧
    (Edit.releaseHandlers n).run doc = .ok () call.result ∧ call.Covers doc n

theorem foldl_text (doc : Document κ) (nodes : List NodeId) (start : String) :
    (nodes.map doc.text).foldl (· ++ ·) start = start ++ doc.textOfAll (nodes.map doc.subtree) := by
  induction nodes generalizing start with
  | nil => exact String.append_empty.symm
  | cons n nodes ih =>
      rw [List.map_cons, List.foldl_cons, ih, List.map_cons, textOfAll, String.append_assoc]
      rfl

theorem markupAll_eq_flatten (elements : List Element) :
    Element.markupAll elements = (elements.map Element.markup).flatten := by
  induction elements with
  | nil => rfl
  | cons element elements ih => rw [Element.markupAll, ih, List.map_cons, List.flatten_cons]

namespace IsForest

variable (forest : doc.IsForest)
include forest

theorem descendants_eq_flatten (n : NodeId) :
    doc.descendants n =
      ((doc.children n).zipWith List.cons ((doc.children n).map doc.descendants)).flatten := by
  rw [forest.descendants_eq, List.flatMap_def, List.zipWith_map_right, List.zipWith_self]
  congr 1
  apply List.map_congr_left
  intro c _
  exact forest.preorder_eq_cons c

theorem text_eq (n : NodeId) :
    doc.text n = ((doc.children n).map doc.text).foldl (· ++ ·) (doc.ownText n) := by
  rw [foldl_text, text, forest.subtree_eq, textOf]

theorem innerMarkup_eq (n : NodeId) :
    (doc.element n).innerMarkup = Markup.escapeText (doc.ownText n).toList
      ++ ((doc.children n).map fun c => (doc.element c).markup).flatten := by
  rw [forest.element_eq, Element.innerMarkup, markupAll_eq_flatten, List.map_map]
  rfl

theorem markup_eq_tags (n : NodeId) :
    (doc.element n).markup =
      doc.openingTag n ++ (doc.element n).innerMarkup ++ doc.closingTag n := by
  rw [forest.element_eq, Element.markup, Element.innerMarkup, openingTag, closingTag]
  simp only [List.append_assoc, List.cons_append]

theorem outerHtml_eq (n : NodeId) :
    (doc.outerHtml n).toList = doc.openingTag n ++ Markup.escapeText (doc.ownText n).toList
      ++ ((doc.children n).map fun c => (doc.outerHtml c).toList).flatten ++ doc.closingTag n := by
  simp only [outerHtml, String.toList_ofList]
  rw [forest.markup_eq_tags, forest.innerMarkup_eq]
  simp only [List.append_assoc]

theorem innerHtml_eq (n : NodeId) :
    (doc.innerHtml n).toList = Markup.escapeText (doc.ownText n).toList
      ++ ((doc.children n).zipWith (fun c inner => doc.openingTag c ++ inner ++ doc.closingTag c)
        ((doc.children n).map fun c => (doc.innerHtml c).toList)).flatten := by
  simp only [innerHtml, String.toList_ofList]
  rw [forest.innerMarkup_eq, List.zipWith_map_right, List.zipWith_self]
  congr 2
  apply List.map_congr_left
  intro c _
  exact forest.markup_eq_tags c

theorem finds (found : NodeId → Bool) (known : n < doc.size) :
    doc.Finds found (some n) ((doc.path n).any found) := by
  obtain ⟨visited, climbs, initial⟩ := forest.climbs found n
  exact ⟨visited, climbs.unique_iff, initial.length_le.trans (forest.length_path_le known)⟩

theorem finds_parent (found : NodeId → Bool) (known : n < doc.size) :
    doc.Finds found (doc.parent n) ((doc.ancestors n).any found) := by
  obtain ⟨visited, climbs, initial⟩ := forest.climbs_parent found n
  exact ⟨visited, climbs.unique_iff, initial.length_le.trans (forest.length_ancestors_lt known).le⟩

theorem computes {combine : NodeId → List α → α} {f : NodeId → α}
    (eq : ∀ n, f n = combine n ((doc.children n).map f)) (known : n < doc.size) :
    doc.Computes combine n (f n) := by
  obtain ⟨call, recurs, result, visited, levels⟩ := forest.exists_recurs eq known
  refine ⟨call, fun other => ⟨fun recurs' => forest.recurs_unique recurs' recurs, ?_⟩, result, ?_⟩
  · rintro rfl
    exact recurs
  · exact forest.covers_of_visited visited levels

theorem walksEnd (known : n < doc.size) : doc.WalksEnd n where
  contains a := by
    rw [contains, List.contains_eq_any_beq]
    exact forest.finds _ known
  path := by
    have climbs := forest.climbs_ancestors n
    exact ⟨doc.ancestors n, climbs.unique_iff, rfl, (forest.length_ancestors_lt known).le⟩
  descendantLink outer test holds := by
    rw [Selector.selects, holds, Bool.true_and]
    exact forest.finds_parent _ known
  descendants := forest.computes (f := doc.descendants) forest.descendants_eq_flatten known
  text := forest.computes (f := doc.text) forest.text_eq known
  outerHtml := forest.computes (f := fun c => (doc.outerHtml c).toList) forest.outerHtml_eq known
  innerHtml := forest.computes (f := fun c => (doc.innerHtml c).toList) forest.innerHtml_eq known
  release := by
    obtain ⟨call, ⟨releases, visited, run, -⟩, levels⟩ := forest.exists_releases known fun _ => rfl
    rw [List.flatMap_singleton] at visited
    refine ⟨call, fun other => ⟨fun releases' => releases'.unique releases, ?_⟩, ?_, ?_⟩
    · rintro rfl
      exact releases
    · rw [visited] at run
      exact run
    · have bound := forest.length_ancestors_lt known
      exact forest.covers_of_visited visited (by omega)

end IsForest
end Document

namespace Machine

variable {ν σ : Type} {behaviour : Behaviour ν σ} {machine : Machine ν σ}

/-- Whatever programs and handlers have done, in the middle of an operation too, every walk from every
node ends; and it still does after anything that comes after a node has been appended. -/
theorem Reachable.walks_end (reachable : machine.Reachable behaviour) {doc : Document (Action ν)}
    (changes : ReflTransGen Change machine.world.document doc) :
    (∀ n < doc.size, doc.WalksEnd n) ∧
      ∀ parent child appended later, (Edit.append parent child).run doc = .ok () appended →
        ReflTransGen Change appended later → ∀ n < later.size, later.WalksEnd n := by
  have forest := reachable.document.isForest.of_changes changes
  refine ⟨fun n known => forest.walksEnd known, ?_⟩
  intro parent child appended later run changes n known
  exact ((Edit.isForest_of_run forest run).of_changes changes).walksEnd known

theorem Reachable.walks_end_takingApart :
    let machine := (start { document := {}, host := () } takingApart).run takeApart 8
    machine.Reachable takeApart ∧ machine.runningHandlers = [0] ∧ machine.world.document.WalksEnd 1 ∧
      ∃ appended, (Edit.append 0 1).run machine.world.document = .ok () appended ∧
        appended.WalksEnd 0 ∧ appended.WalksEnd 1 := by
  intro machine
  have reachable : machine.Reachable takeApart := (first () takingApart).run 8
  obtain ⟨now, later⟩ := reachable.walks_end .refl
  refine ⟨reachable, rfl, now 1 (by decide), _, rfl, ?_⟩
  exact ⟨later 0 1 _ _ rfl .refl 0 (by decide), later 0 1 _ _ rfl .refl 1 (by decide)⟩

end Machine
end ReportCards

import ReportCards.Proofs.Document.Change
import ReportCards.Proofs.Text.Words

namespace ReportCards

def isTagChar (c : Char) : Bool :=
  c.isAlphanum || c = '-'

structure Node.IsTidy {κ : Type} (node : Node κ) : Prop where
  tag : ∀ c ∈ node.tag.toList, isTagChar c = true
  classes : ∀ name ∈ node.classes, Text.IsWord name.toList
  attributes : ∀ pair ∈ node.attributes, isAttributeName pair.1 = true ∧ pair.1 ≠ "class"

theorem isTagChar_toLower {c : Char} (tagChar : isTagChar c = true) :
    isTagChar c.toLower = true := by
  rcases Text.toLower_eq_or c with same | ⟨-, letter⟩
  · rwa [same]
  · rw [isTagChar, letter]
    rfl

theorem isTagChar_of_mem_lowerCase {tag : String} (accepted : isTagName tag = true) {c : Char}
    (member : c ∈ (lowerCase tag).toList) : isTagChar c = true := by
  rw [lowerCase, String.toList_ofList] at member
  obtain ⟨d, inside, rfl⟩ := List.mem_map.1 member
  rw [isTagName, Bool.and_eq_true, List.all_eq_true] at accepted
  exact isTagChar_toLower (accepted.2 d inside)

theorem isWord_of_isClassName {name : String} (accepted : isClassName name = true) :
    Text.IsWord name.toList := by
  rw [isClassName, Bool.and_eq_true, List.all_eq_true] at accepted
  refine ⟨by simpa using accepted.1, fun c inside => ?_⟩
  simpa using accepted.2 c inside

theorem mem_assignAttribute {name value : String} {attributes : List (String × String)}
    {pair : String × String} (member : pair ∈ assignAttribute name value attributes) :
    pair = (name, value) ∨ pair ∈ attributes := by
  induction attributes with
  | nil => exact .inl (List.mem_singleton.1 member)
  | cons first rest ih =>
      unfold assignAttribute at member
      split at member
      · rcases List.mem_cons.1 member with rfl | later
        · exact .inl rfl
        · exact .inr (List.mem_cons_of_mem _ later)
      · rcases List.mem_cons.1 member with rfl | later
        · exact .inr List.mem_cons_self
        · exact (ih later).imp_right (List.mem_cons_of_mem _)

namespace Node.IsTidy

variable {κ : Type} {node : Node κ}

theorem addClass (tidy : node.IsTidy) {name : String} (accepted : isClassName name = true) :
    (node.addClass name).IsTidy := by
  unfold Node.addClass
  split
  · exact tidy
  · refine ⟨tidy.tag, fun other member => ?_, tidy.attributes⟩
    rcases List.mem_append.1 member with old | new
    · exact tidy.classes other old
    · rw [List.mem_singleton.1 new]
      exact isWord_of_isClassName accepted

theorem setAttribute (tidy : node.IsTidy) {name : String} (value : String)
    (accepted : isAttributeName name = true) : (node.setAttribute name value).IsTidy := by
  unfold Node.setAttribute
  split
  · refine ⟨tidy.tag, fun other member => ?_, tidy.attributes⟩
    obtain ⟨word, inside, rfl⟩ := List.mem_map.1 member
    rw [String.toList_ofList]
    exact Text.isWord_of_mem_words inside
  · rename_i other
    refine ⟨tidy.tag, tidy.classes, fun pair member => ?_⟩
    rcases mem_assignAttribute member with rfl | old
    · exact ⟨accepted, other⟩
    · exact tidy.attributes pair old

end Node.IsTidy

namespace Document

variable {κ : Type} {doc after : Document κ}

def IsTidy (doc : Document κ) : Prop :=
  ∀ n, (doc.node n).IsTidy

theorem isTidy_empty : ({} : Document κ).IsTidy := fun n => by
  constructor <;> simp [Document.node]

theorem IsTidy.update (tidy : doc.IsTidy) (n : NodeId) {change : Node κ → Node κ}
    (kept : ∀ node, node.IsTidy → (change node).IsTidy) : (doc.update n change).IsTidy := by
  intro m
  rw [node_update]
  split
  · exact kept _ (tidy m)
  · exact tidy m

theorem IsTidy.detach (tidy : doc.IsTidy) (c : NodeId) : (doc.detach c).IsTidy := by
  intro m
  rw [node_detach]
  exact ⟨(tidy m).tag, (tidy m).classes, (tidy m).attributes⟩

theorem IsTidy.foldl_detach (tidy : doc.IsTidy) (nodes : List NodeId) :
    (nodes.foldl Document.detach doc).IsTidy := by
  induction nodes generalizing doc with
  | nil => exact tidy
  | cons c rest ih => exact ih (tidy.detach c)

theorem Change.isTidy (change : Change doc after) (tidy : doc.IsTidy) : after.IsTidy := by
  cases change with
  | create accepted =>
      intro m
      rw [node_insert]
      split
      · exact ⟨fun c => isTagChar_of_mem_lowerCase accepted, by simp, by simp⟩
      · exact tidy m
  | setText n text =>
      refine (tidy.foldl_detach _).update n fun node tidy => ?_
      exact ⟨tidy.tag, tidy.classes, tidy.attributes⟩
  | addClass n accepted => exact tidy.update n fun _ tidy => tidy.addClass accepted
  | setAttribute n value accepted => exact tidy.update n fun _ tidy => tidy.setAttribute value accepted
  | append knownParent knownChild apart =>
      refine IsTidy.update ((tidy.detach _).update _ fun node tidy => ?_) _ fun node tidy => ?_
      · exact ⟨tidy.tag, tidy.classes, tidy.attributes⟩
      · exact ⟨tidy.tag, tidy.classes, tidy.attributes⟩
  | remove link => exact tidy.detach _
  | onClick n handler =>
      have counted : ({ doc with registered := doc.registered + 1 } : Document κ).IsTidy := tidy
      exact counted.update n fun _ tidy => ⟨tidy.tag, tidy.classes, tidy.attributes⟩
  | clearHandlers n => exact tidy.update n fun _ tidy => ⟨tidy.tag, tidy.classes, tidy.attributes⟩

theorem Reachable.isTidy (reachable : doc.Reachable) : doc.IsTidy := by
  induction reachable with
  | refl => exact isTidy_empty
  | tail _ change ih => exact change.isTidy ih

end Document
end ReportCards

import ReportCards.Proofs.Document.Run

namespace ReportCards
open Document

variable {κ α β : Type} {tags : List String}

namespace Document

theorem tag_update (doc : Document κ) {change : Node κ → Node κ}
    (same : ∀ node, (change node).tag = node.tag) (n m : NodeId) :
    (doc.update n change).tag m = doc.tag m := by
  rw [tag, node_update]
  split
  · exact same _
  · rfl

theorem tag_detach (doc : Document κ) (c m : NodeId) : (doc.detach c).tag m = doc.tag m := by
  rw [tag, node_detach, tag]

theorem tag_attach (doc : Document κ) (p c m : NodeId) : (doc.attach p c).tag m = doc.tag m := by
  rw [attach, tag_update, tag_update] <;> exact fun _ => rfl

theorem tag_foldl_detach (nodes : List NodeId) (doc : Document κ) (m : NodeId) :
    (nodes.foldl detach doc).tag m = doc.tag m := by
  induction nodes generalizing doc with
  | nil => rfl
  | cons n nodes ih => rw [List.foldl_cons, ih, tag_detach]

def TagsWithin (tags : List String) (before after : Document κ) : Prop :=
  ∀ n, after.tag n = before.tag n ∨ after.tag n ∈ tags

theorem TagsWithin.refl (tags : List String) (doc : Document κ) : TagsWithin tags doc doc :=
  fun _ => .inl rfl

theorem TagsWithin.trans {before middle after : Document κ} (first : TagsWithin tags before middle)
    (second : TagsWithin tags middle after) : TagsWithin tags before after := by
  intro n
  rcases second n with kept | new
  · rw [kept]
    exact first n
  · exact .inr new

end Document

namespace Edit

/-- An edit that makes only nodes with these tags. -/
class TagsIn (tags : List String) (edit : Edit κ α) : Prop where
  tagsWithin : ∀ doc, TagsWithin tags doc (after edit doc)

theorem TagsIn.of_kept {edit : Edit κ α} (kept : ∀ doc n, (after edit doc).tag n = doc.tag n) :
    TagsIn tags edit :=
  ⟨fun doc n => .inl (kept doc n)⟩

theorem tagsWithin_of_run {edit : Edit κ α} [tagsIn : TagsIn tags edit] {before later : Document κ}
    {value : α} (run : edit.run before = .ok value later) : TagsWithin tags before later := by
  have all := tagsIn.tagsWithin before
  rwa [after, run] at all

/-! ## Control -/

instance (value : α) : TagsIn tags (pure value : Edit κ α) :=
  .of_kept fun _ _ => rfl

instance : TagsIn tags (get : Edit κ (Document κ)) :=
  .of_kept fun _ _ => rfl

instance (edit : Edit κ α) (next : α → Edit κ β) [first : TagsIn tags edit]
    [second : ∀ value, TagsIn tags (next value)] : TagsIn tags (edit >>= next) where
  tagsWithin := rel_after_bind .trans first.tagsWithin fun value => (second value).tagsWithin

instance (condition : Prop) [Decidable condition] (yes no : Edit κ α) [TagsIn tags yes]
    [TagsIn tags no] : TagsIn tags (if condition then yes else no) := by
  split <;> infer_instance

instance (items : List α) (edit : α → Edit κ PUnit) [∀ item, TagsIn tags (edit item)] :
    TagsIn tags (items.forM edit) := by
  induction items with
  | nil => exact inferInstanceAs (TagsIn tags (pure PUnit.unit : Edit κ PUnit))
  | cons item rest ih => exact inferInstanceAs (TagsIn tags (edit item >>= fun _ => rest.forM edit))

/-! ## Operations on single nodes -/

theorem TagsIn.create {tag : String} (member : lowerCase tag ∈ tags) :
    TagsIn tags (create tag : Edit κ NodeId) where
  tagsWithin doc n := by
    by_cases accepted : isTagName tag = true
    · rw [after, run_create accepted]
      dsimp only
      rw [Document.tag, node_insert]
      split
      · exact .inr member
      · exact .inl rfl
    · rw [Edit.create, if_neg accepted]
      exact .inl rfl

instance (n : NodeId) (text : String) : TagsIn tags (setText n text : Edit κ Unit) := by
  refine .of_kept fun doc m => (tag_update _ ?_ n m).trans (tag_foldl_detach _ doc m)
  exact fun _ => rfl

instance (n : NodeId) (name : String) : TagsIn tags (addClass n name : Edit κ Unit) := by
  unfold addClass
  split
  · refine .of_kept fun doc m => tag_update doc (fun node => ?_) n m
    unfold Node.addClass
    split <;> rfl
  · exact .of_kept fun _ _ => rfl

instance (n : NodeId) (name value : String) : TagsIn tags (setAttribute n name value : Edit κ Unit) := by
  unfold setAttribute
  split
  · refine .of_kept fun doc m => tag_update doc (fun node => ?_) n m
    unfold Node.setAttribute
    split <;> rfl
  · exact .of_kept fun _ _ => rfl

instance (parent child : NodeId) : TagsIn tags (append parent child : Edit κ Unit) := by
  refine .of_kept fun doc m => ?_
  rcases after_append parent child doc with same | appended
  · rw [same]
  · rw [appended, tag_attach, tag_detach]

instance (parent child : NodeId) : TagsIn tags (remove parent child : Edit κ Unit) := by
  refine .of_kept fun doc m => ?_
  rcases after_remove parent child doc with same | removed
  · rw [same]
  · rw [removed, tag_detach]

instance (n : NodeId) (action : κ) : TagsIn tags (onClick n action : Edit κ Unit) := by
  refine .of_kept fun doc m => tag_update { doc with registered := doc.registered + 1 } ?_ n m
  exact fun _ => rfl

instance (n : NodeId) : TagsIn tags (clearHandlers n : Edit κ Unit) := by
  refine .of_kept fun doc m => tag_update doc ?_ n m
  exact fun _ => rfl

/-! ## Controls -/

instance (n : NodeId) : TagsIn tags (clearContents n : Edit κ Unit) := by
  unfold clearContents releaseHandlers
  infer_instance

instance (list : NodeId) (label : String) :
    TagsIn ["li", "a"] (Pager.addHandle list label : Edit κ NodeId) := by
  have item : TagsIn ["li", "a"] (create "li" : Edit κ NodeId) := .create (by decide)
  have link : TagsIn ["li", "a"] (create "a" : Edit κ NodeId) := .create (by decide)
  unfold Pager.addHandle
  infer_instance

variable {ν : Type}

instance (pager : Pager ν) (list : NodeId) (count : UInt64) (window : PageWindow) (index : UInt64) :
    TagsIn ["li", "a"] (pager.addPageHandle list count window index) := by
  unfold Pager.addPageHandle
  dsimp only
  infer_instance

set_option synthInstance.maxSize 1024 in
instance (pager : Pager ν) (list : NodeId) (count : UInt64) (window : PageWindow) :
    TagsIn ["li", "a"] (pager.fillList list count window) := by
  unfold Pager.fillList
  dsimp only
  infer_instance

end Edit
end ReportCards

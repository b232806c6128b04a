import RichText.Document.Tree.Reader
import RichText.Document.Tree.Writer
import RichText.Proofs.Document.Names
import RichText.Proofs.Emission

/-!
# Documents through JSON trees and back

Every node is written as an object with all of its fields, and read back as it was.

**Records.** `Restores` says of a reader and a writer that the one reads what the other writes. It
passes from items to sequences, so there is one lemma for each record, in the order in which they
are nested.

**Tags.** The member `type` is put among the fields of a record by name, and taken out again before
the fields are read (`takeTag_insertMember`). No record has a field of that name. What stands inside
a field, such as the payload of a card, is not looked at.

Main result: `Node.ofJson_toJson`.
-/

namespace RichText

namespace TreeReader

variable {α : Type}

/-- Reading what was written gives the same again. -/
def Restores (read : TreeReader α) (write : α → Json) : Prop := ∀ a, read (write a) = .ok a

theorem Restores.sequence {read : TreeReader α} {write : α → Json} (h : Restores read write)
    (as : List α) : sequence read (.arr (as.map write)) = .ok as := by
  rw [TreeReader.sequence, mapM_map_ok fun a _ => h a, List.map_id']

theorem attributeMembers_map (done : Attributes) (pairs : List (String × String)) :
    attributeMembers done (pairs.map fun e => (e.1, .str e.2)) =
      .ok (pairs.foldl (fun a p => a.insert p.1 p.2) done) := by
  induction pairs generalizing done with
  | nil => rfl
  | cons e pairs ih => exact ih (done.insert e.1 e.2)

theorem restores_attributes : Restores attributes Attributes.toJson := by
  intro a
  rw [Attributes.toJson, attributes, attributeMembers_map]
  exact congrArg Except.ok (Attributes.ofPairs_entries a)

end TreeReader

open TreeReader

/-! ## Records -/

theorem Markup.ofJson_fields (m : Markup) : ofJson (.obj m.fields) = .ok m := by
  have hattributes := restores_attributes m.attributes
  simp [ofJson, record, ofMembers, fields, Draft.add, once, required, text, hattributes, ok_bind]

theorem Markup.restores : Restores Markup.ofJson Markup.toJson := ofJson_fields

theorem Marker.ofJson_fields (m : Marker) : ofJson (.obj m.fields) = .ok m := by
  have hopened := Markup.restores.sequence m.openedMarkups
  simp [ofJson, record, ofMembers, fields, Draft.add, once, required, text, count, Json.nat,
    hopened, ok_bind]

theorem Marker.restores : Restores Marker.ofJson Marker.toJson := ofJson_fields

theorem ListItem.ofJson_fields (i : ListItem) : ofJson (.obj i.fields) = .ok i := by
  have hmarkers := Marker.restores.sequence i.markers
  simp [ofJson, record, ofMembers, fields, add, once, hmarkers]

theorem ListItem.restores : Restores ListItem.ofJson ListItem.toJson := ofJson_fields

/-- A tagged list is read from its two fields, whatever its items are. -/
theorem TaggedDraft.ofMembers_fields {α : Type} {item : TreeReader α} {write : α → Json}
    (h : Restores item write) {field : String} (hfield : field ≠ "tag_name") (tagName : String)
    (as : List α) :
    ofMembers field item [(field, .arr (as.map write)), ("tag_name", .str tagName)] =
      .ok (tagName, as) := by
  simp [ofMembers, add, once, required, text, hfield, h.sequence as, ok_bind]

theorem MarkupSection.ofJson_fields (s : MarkupSection) : ofJson (.obj s.fields) = .ok s := by
  rw [ofJson, record, fields, TaggedDraft.ofMembers_fields Marker.restores (by decide)]
  rfl

theorem ListSection.ofJson_fields (s : ListSection) : ofJson (.obj s.fields) = .ok s := by
  rw [ofJson, record, fields, TaggedDraft.ofMembers_fields ListItem.restores (by decide)]
  rfl

theorem ImageSection.ofJson_fields (s : ImageSection) : ofJson (.obj s.fields) = .ok s := by
  simp [ofJson, record, ofMembers, fields, add, once, required, text, ok_bind]

theorem Card.ofJson_fields (c : Card) : ofJson (.obj c.fields) = .ok c := by
  simp [ofJson, record, ofMembers, fields, Draft.add, once, required, text, ok_bind]

/-! ## Tags -/

/-- No member is called `type`. -/
def Untagged (members : List (String × Json)) : Prop := ∀ m ∈ members, m.1 ≠ "type"

namespace TagTable

variable {α : Type} {table : TagTable α} {byIndex : Bool} {read : TreeReader α}

theorem takeTag_untagged {members : List (String × Json)} (h : Untagged members) :
    table.takeTag byIndex (some read) members = .ok (read, members) := by
  induction members with
  | nil => rfl
  | cons m members ih =>
    obtain ⟨hm, hmembers⟩ := List.forall_mem_cons.1 h
    rw [takeTag, if_neg hm, ih hmembers]
    rfl

/-- A tag that was put among untagged members is taken out again. -/
theorem takeTag_insertMember {members : List (String × Json)} (h : Untagged members) {tag : Json}
    (htag : table.select byIndex tag = .ok read) :
    table.takeTag byIndex none (Json.insertMember "type" tag members) = .ok (read, members) := by
  have hfirst : ∀ {rest}, Untagged rest →
      table.takeTag byIndex none (("type", tag) :: rest) = .ok (read, rest) := by
    intro rest hrest
    rw [takeTag, if_pos rfl, htag, ok_bind, takeTag_untagged hrest]
  induction members with
  | nil => exact hfirst h
  | cons m members ih =>
    obtain ⟨k, v⟩ := m
    obtain ⟨hk, hmembers⟩ := List.forall_mem_cons.1 h
    rw [Json.insertMember]
    split
    · exact hfirst h
    · rw [if_neg (Ne.symm hk), takeTag, if_neg hk, ih hmembers]
      rfl

/-- A tagged record is read as what its fields are read as under its tag. -/
theorem read_tagged {β : Type} {ofJson : TreeReader β} {ofRecord : β → α} {type : NodeType}
    {fields : List (String × Json)} {b : β} (expected : TreePart)
    (htype : table.select byIndex (.str type.name) = .ok fun v => ofRecord <$> ofJson v)
    (h : Untagged fields) (hfields : ofJson (.obj fields) = .ok b) :
    table.read expected byIndex (tagged type fields) = .ok (ofRecord b) := by
  rw [tagged, TagTable.read, takeTag_insertMember h htype]
  show ofRecord <$> ofJson (.obj fields) = _
  rw [hfields]
  rfl

end TagTable

open TagTable

theorem Section.restores : Restores Section.ofJson Section.toJson
  | .markup s =>
    read_tagged .blockNode rfl (by simp [Untagged, MarkupSection.fields]) s.ofJson_fields
  | .list s => read_tagged .blockNode rfl (by simp [Untagged, ListSection.fields]) s.ofJson_fields
  | .image s =>
    read_tagged .blockNode rfl (by simp [Untagged, ImageSection.fields]) s.ofJson_fields
  | .card c => read_tagged .blockNode rfl (by simp [Untagged, Card.fields]) c.ofJson_fields

theorem Post.ofJson_fields (p : Post) : ofJson (.obj p.fields) = .ok p := by
  have hsections := Section.restores.sequence p.sections
  simp [ofJson, record, ofMembers, fields, add, once, hsections]

/-! ## Nodes -/

theorem Node.restores : Restores Node.ofJson Node.toJson
  | .post n => read_tagged .node rfl (by simp [Untagged, Post.fields]) n.ofJson_fields
  | .markupSection n =>
    read_tagged .node rfl (by simp [Untagged, MarkupSection.fields]) n.ofJson_fields
  | .listSection n => read_tagged .node rfl (by simp [Untagged, ListSection.fields]) n.ofJson_fields
  | .listItem n => read_tagged .node rfl (by simp [Untagged, ListItem.fields]) n.ofJson_fields
  | .imageSection n =>
    read_tagged .node rfl (by simp [Untagged, ImageSection.fields]) n.ofJson_fields
  | .card n => read_tagged .node rfl (by simp [Untagged, Card.fields]) n.ofJson_fields
  | .marker n => read_tagged .node rfl (by simp [Untagged, Marker.fields]) n.ofJson_fields
  | .markup n => read_tagged .node rfl (by simp [Untagged, Markup.fields]) n.ofJson_fields

/-- **The round trip.** Every node is read back from the tree that it is written as, so different
nodes are written as different trees. -/
theorem Node.ofJson_toJson :
    (∀ n : Node, Node.ofJson n.toJson = .ok n) ∧ Function.Injective Node.toJson := by
  refine ⟨Node.restores, fun m n h => ?_⟩
  have hread : Node.ofJson m.toJson = Node.ofJson n.toJson := congrArg Node.ofJson h
  rw [Node.restores, Node.restores] at hread
  exact Except.ok.inj hread

end RichText

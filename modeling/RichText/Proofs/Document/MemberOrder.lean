import RichText.CommandLine
import RichText.Proofs.Document.SortedReading

/-!
# Documents do not depend on the order of members

A node can be read from a text as it stands, or from the value that the text writes with the members
of every object sorted. The one reader takes the members in the order of the text and finds the tag
anywhere among them; the other takes them in order of names. Where no object repeats a name both
accept the same texts and give the same node.

There is one lemma for each record, in the order in which they are nested: its fields do not look at
each other, so its steps are independent, and the reader of each field sorts. Only a card keeps a
value as it is, its payload; the reader of the text sorts it at the end.

Main result: `Node.ofText_agrees_ofSortedText`.
-/

namespace RichText

open TreeReader

/-! ## Attributes -/

namespace TreeReader

/-- Sets the attribute that a member writes. -/
def addAttribute (done : Attributes) (m : String × Json) : TreeResult Attributes :=
  done.insert m.1 <$> text m.2

theorem attributeMembers_eq_foldlM (done : Attributes) (members : List (String × Json)) :
    attributeMembers done members = members.foldlM addAttribute done := by
  induction members generalizing done with
  | nil => rfl
  | cons m members ih =>
    rw [attributeMembers, List.foldlM_cons, addAttribute]
    cases text m.2 with
    | error e => rfl
    | ok s => exact ih _

theorem independent_addAttribute : Independent addAttribute := by
  intro a m n hne
  simp only [addAttribute, toOption_map]
  exact set_comm (fun _ => rfl) (fun _ => rfl) fun v w => a.insert_comm hne v w

theorem sortsTo_addAttribute : StepSortsTo addAttribute id := by
  intro a m hm
  simp [addAttribute, sortsTo_text m.2 hm]

theorem sortsTo_attributes : SortsTo attributes id := by
  intro v hv
  cases v with
  | obj members =>
    simp only [Json.sorted, attributes, attributeMembers_eq_foldlM]
    exact foldlM_sortedMembers independent_addAttribute sortsTo_addAttribute .empty rfl hv
  | _ => simp [Json.sorted, attributes]

end TreeReader

/-! ## Markups -/

namespace Markup

theorem Draft.independent_add : Independent Draft.add := by
  intro d m n hne
  fun_cases Draft.add d m <;> fun_cases Draft.add d n <;> simp [Draft.add] at hne ⊢
  -- What is left are members of two different fields.
  all_goals exact set_comm (fun _ => rfl) (fun _ => rfl) fun _ _ => rfl

theorem Draft.sortsTo_add : StepSortsTo Draft.add id := by
  rintro d ⟨k, v⟩ hv
  by_cases htag : k = "tag_name"
  · subst htag
    simp [Json.sortedMember, add, sortsTo_text.once_id "tag_name" d.tagName hv]
  by_cases hattributes : k = "attributes"
  · subst hattributes
    simp [Json.sortedMember, add, sortsTo_attributes.once_id "attributes" d.attributes hv]
  · simp [Json.sortedMember, add, htag, hattributes]

theorem sortsTo : SortsTo Markup.ofJson id := by
  apply SortsTo.record
  · intro members h
    have hd := foldlM_sortedMembers Draft.independent_add Draft.sortsTo_add {} rfl h
    simp [ofMembers, hd]
  · intro items h
    have htag := sortsTo_text.firstItem "Markup" 2 h
    have hattributes := sortsTo_attributes.itemOr .empty rfl 1 h
    simp [ofItems, htag, hattributes]

theorem sortsTo_sequence : SortsTo (sequence Markup.ofJson) id := by
  simpa using sortsTo.sequence

end Markup

/-! ## Markers -/

namespace Marker

theorem Draft.independent_add : Independent Draft.add := by
  intro d m n hne
  fun_cases Draft.add d m <;> fun_cases Draft.add d n <;> simp [Draft.add] at hne ⊢
  all_goals exact set_comm (fun _ => rfl) (fun _ => rfl) fun _ _ => rfl

theorem Draft.sortsTo_add : StepSortsTo Draft.add id := by
  rintro d ⟨k, v⟩ hv
  by_cases hvalue : k = "value"
  · subst hvalue
    simp [Json.sortedMember, add, sortsTo_text.once_id "value" d.value hv]
  by_cases hopened : k = "opened_markups"
  · subst hopened
    simp [Json.sortedMember, add,
      Markup.sortsTo_sequence.once_id "opened_markups" d.openedMarkups hv]
  by_cases hclosed : k = "closed_count"
  · subst hclosed
    simp [Json.sortedMember, add, sortsTo_count.once_id "closed_count" d.closedCount hv]
  · simp [Json.sortedMember, add, hvalue, hopened, hclosed]

theorem sortsTo : SortsTo Marker.ofJson id := by
  apply SortsTo.record
  · intro members h
    have hd := foldlM_sortedMembers Draft.independent_add Draft.sortsTo_add {} rfl h
    simp [ofMembers, hd]
  · intro items h
    have hvalue := sortsTo_text.firstItem "Marker" 3 h
    have hopened := Markup.sortsTo_sequence.itemOr [] rfl 1 h
    have hclosed := sortsTo_count.itemOr 0 rfl 2 h
    simp [ofItems, hvalue, hopened, hclosed]

theorem sortsTo_sequence : SortsTo (sequence Marker.ofJson) id := by
  simpa using sortsTo.sequence

end Marker

/-! ## List items -/

namespace ListItem

theorem add_eq_addOnly : ListItem.add = addOnly "markers" (sequence Marker.ofJson) := by
  funext d ⟨k, v⟩
  by_cases hk : k = "markers"
  · subst hk
    simp [add, addOnly]
  · simp [add, addOnly, hk]

theorem sortsTo : SortsTo ListItem.ofJson id := by
  apply SortsTo.record
  · intro members h
    have hd := Marker.sortsTo_sequence.foldlM_addOnly "markers" h
    simp [ofMembers, add_eq_addOnly, hd]
  · intro items h
    have hmarkers := Marker.sortsTo_sequence.itemOr [] rfl 0 h
    simp [ofItems, hmarkers]

theorem sortsTo_sequence : SortsTo (sequence ListItem.ofJson) id := by
  simpa using sortsTo.sequence

end ListItem

/-! ## Sections -/

namespace TaggedDraft

variable {α : Type}

theorem independent_add (field : String) (item : TreeReader α) :
    Independent (TaggedDraft.add field item) := by
  intro d m n hne
  fun_cases TaggedDraft.add field item d m <;> fun_cases TaggedDraft.add field item d n <;>
    simp_all [TaggedDraft.add]
  all_goals exact set_comm (fun _ => rfl) (fun _ => rfl) fun _ _ => rfl

theorem sortsTo_add (field : String) {item : TreeReader α} (hitem : SortsTo (sequence item) id) :
    StepSortsTo (TaggedDraft.add field item) id := by
  rintro d ⟨k, v⟩ hv
  by_cases htag : k = "tag_name"
  · simp [Json.sortedMember, add, htag, sortsTo_text.once_id "tag_name" d.tagName hv]
  by_cases hfield : k = field
  · subst hfield
    simp [Json.sortedMember, add, htag, hitem.once_id k d.content hv]
  · simp [Json.sortedMember, add, htag, hfield]

/-- A tagged list sorts if its items do. -/
theorem sortsTo (name field : String) {item : TreeReader α} (hitem : SortsTo (sequence item) id) :
    SortsTo (record name (ofMembers field item) (ofItems name item)) id := by
  apply SortsTo.record
  · intro members h
    have hd := foldlM_sortedMembers (independent_add field item) (sortsTo_add field hitem) {} rfl h
    simp [ofMembers, hd]
  · intro items h
    have htag := sortsTo_text.firstItem name 2 h
    have hcontent := hitem.itemOr [] rfl 1 h
    simp [ofItems, htag, hcontent]

end TaggedDraft

theorem MarkupSection.sortsTo : SortsTo MarkupSection.ofJson id := by
  intro v hv
  have hfields := TaggedDraft.sortsTo "MarkupSection" "markers" Marker.sortsTo_sequence v hv
  simp [ofJson, hfields]

theorem ListSection.sortsTo : SortsTo ListSection.ofJson id := by
  intro v hv
  have hfields := TaggedDraft.sortsTo "ListSection" "items" ListItem.sortsTo_sequence v hv
  simp [ofJson, hfields]

theorem ImageSection.add_eq_addOnly : ImageSection.add = addOnly "src" text := by
  funext d ⟨k, v⟩
  by_cases hk : k = "src"
  · subst hk
    simp [add, addOnly]
  · simp [add, addOnly, hk]

theorem ImageSection.sortsTo : SortsTo ImageSection.ofJson id := by
  apply SortsTo.record
  · intro members h
    have hd := sortsTo_text.foldlM_addOnly "src" h
    simp [ofMembers, add_eq_addOnly, hd]
  · intro items h
    have hsrc := sortsTo_text.firstItem "ImageSection" 1 h
    simp [ofItems, hsrc]

/-! ### Cards -/

namespace Card

/-- The card with its payload sorted. -/
def sortPayload (c : Card) : Card := { c with payload := c.payload.sorted }

/-- The draft with the payload sorted, if it was read. -/
def Draft.sortPayload (d : Draft) : Draft := { d with payload := d.payload.map Json.sorted }

theorem sortsTo_payload : SortsTo Except.ok Json.sorted := by
  intro v _
  rfl

theorem Draft.independent_add : Independent Draft.add := by
  intro d m n hne
  fun_cases Draft.add d m <;> fun_cases Draft.add d n <;> simp [Draft.add] at hne ⊢
  all_goals exact set_comm (fun _ => rfl) (fun _ => rfl) fun _ _ => rfl

theorem Draft.sortsTo_add : StepSortsTo Draft.add Draft.sortPayload := by
  rintro d ⟨k, v⟩ hv
  by_cases hname : k = "name"
  · subst hname
    simp [Json.sortedMember, add, sortPayload, sortsTo_text.once_id "name" d.name hv,
      Function.comp_def]
  by_cases hpayload : k = "payload"
  · subst hpayload
    simp [Json.sortedMember, add, sortPayload, sortsTo_payload.once "payload" d.payload hv,
      Function.comp_def]
  · simp [Json.sortedMember, add, hname, hpayload]

theorem sortsTo : SortsTo Card.ofJson sortPayload := by
  apply SortsTo.record
  · intro members h
    have hd := foldlM_sortedMembers Draft.independent_add Draft.sortsTo_add {} rfl h
    simp only [ofMembers, toOption_bind, hd]
    cases (members.foldlM Draft.add {}).toOption with
    | none => rfl
    | some d =>
      have hpayload : (d.payload.map Json.sorted).getD (.obj []) =
          (d.payload.getD (.obj [])).sorted := by
        cases d.payload <;> rfl
      simp [Draft.sortPayload, sortPayload, hpayload, Function.comp_def]
  · intro items h
    have hname := sortsTo_text.firstItem "Card" 2 h
    have hpayload := sortsTo_payload.itemOr (.obj []) rfl 1 h
    simp only [ofItems, toOption_bind, hname, hpayload, atMost_map]
    cases (firstItem "Card" 2 text items).toOption <;>
      cases (itemOr (.obj []) .ok items 1).toOption <;>
      simp [sortPayload, Function.comp_def]

end Card

theorem Section.sortsTo : SortsTo Section.ofJson (Section.mapPayload Json.sorted) := by
  apply TagTable.sortsTo_read
  intro e he
  simp only [tagTable, List.mem_cons, List.not_mem_nil, or_false] at he
  rcases he with rfl | rfl | rfl | rfl
  · exact MarkupSection.sortsTo.map Section.markup fun _ => rfl
  · exact ListSection.sortsTo.map Section.list fun _ => rfl
  · exact ImageSection.sortsTo.map Section.image fun _ => rfl
  · exact Card.sortsTo.map Section.card fun _ => rfl

/-! ## Posts and nodes -/

namespace Post

/-- The post with the payload of every card sorted. -/
def sortPayloads (p : Post) : Post := ⟨p.sections.map (Section.mapPayload Json.sorted)⟩

theorem add_eq_addOnly : Post.add = addOnly "sections" (sequence Section.ofJson) := by
  funext d ⟨k, v⟩
  by_cases hk : k = "sections"
  · subst hk
    simp [add, addOnly]
  · simp [add, addOnly, hk]

theorem sortsTo : SortsTo Post.ofJson sortPayloads := by
  apply SortsTo.record
  · intro members h
    have hd := Section.sortsTo.sequence.foldlM_addOnly "sections" h
    simp only [ofMembers, add_eq_addOnly, toOption_bind, hd]
    cases (members.foldlM (addOnly "sections" (sequence Section.ofJson)) none).toOption with
    | none => rfl
    | some d => cases d <;> rfl
  · intro items h
    have hsections := Section.sortsTo.sequence.itemOr [] rfl 0 h
    simp only [ofItems, toOption_bind, hsections, atMost_map]
    cases (itemOr [] (sequence Section.ofJson) items 0).toOption <;>
      simp [sortPayloads, Function.comp_def]

end Post

/-- **What a node is read as from a sorted value.** -/
theorem Node.sortsTo : SortsTo Node.ofJson (Node.mapPayload Json.sorted) := by
  apply TagTable.sortsTo_read
  intro e he
  simp only [tagTable, List.mem_cons, List.not_mem_nil, or_false] at he
  rcases he with rfl | rfl | rfl | rfl | rfl | rfl | rfl | rfl
  · exact Post.sortsTo.map Node.post fun _ => rfl
  · exact MarkupSection.sortsTo.map Node.markupSection fun _ => rfl
  · exact ListSection.sortsTo.map Node.listSection fun _ => rfl
  · exact ListItem.sortsTo.map Node.listItem fun _ => rfl
  · exact ImageSection.sortsTo.map Node.imageSection fun _ => rfl
  · exact Card.sortsTo.map Node.card fun _ => rfl
  · exact Marker.sortsTo.map Node.marker fun _ => rfl
  · exact Markup.sortsTo.map Node.markup fun _ => rfl

/-! ## Texts -/

/-- A text is accepted from left to right if all of it is JSON and its value is a node. -/
theorem Node.ofText_eq_ok_iff {s : String} {n : Node} :
    Node.ofText s = .ok n ↔
      ∃ v, Json.parse? s = some v ∧ ∃ m, Node.ofJson v = .ok m ∧ m.mapPayload Json.sorted = n := by
  unfold ofText Json.parse?
  cases Json.Parser.value Json.Parser.maxDepth s.toList with
  | none => simp
  | some r =>
    obtain ⟨v, rest⟩ := r
    by_cases hrest : Json.Parser.skipBlanks rest = []
    · simp [hrest, map_eq_ok_iff]
    · simp [hrest, bind_eq_ok_iff]

theorem Node.ofSortedText_eq_ok_iff {s : String} {n : Node} :
    Node.ofSortedText s = .ok n ↔ ∃ v, Json.parse? s = some v ∧ Node.ofJson v.sorted = .ok n := by
  unfold ofSortedText Json.parseSorted?
  cases Json.parse? s <;> simp

/-- The program reads a tree from the sorted value. -/
theorem CommandLine.load_tree_eq_ok_iff {s path : String} {n : Node} :
    load s path .tree = .ok n ↔ Node.ofSortedText s = .ok n := by
  simp only [load, nodeOfJson, Node.ofSortedText]
  cases Json.parseSorted? s with
  | none => simp
  | some v => cases h : Node.ofJson v <;> simp [h, Except.mapError]

/-- **The order of members does not count.** Of a text in which no object repeats a name, the reader
that goes from left to right and the one that sorts the members first accept the same and give the
same node, and so does the program when it is given a tree. -/
theorem Node.ofText_agrees_ofSortedText (s : String)
    (h : ∀ v, Json.parse? s = some v → v.KeysDistinct) :
    (∀ n, Node.ofText s = .ok n ↔ Node.ofSortedText s = .ok n) ∧
      (∀ path n, Node.ofText s = .ok n ↔ CommandLine.load s path .tree = .ok n) ∧
      ((∃ n, Node.ofText s = .ok n ∧ Node.ofSortedText s = .ok n) ∨
        ∃ fault fault', Node.ofText s = .error fault ∧ Node.ofSortedText s = .error fault') := by
  have hagree : ∀ n, Node.ofText s = .ok n ↔ Node.ofSortedText s = .ok n := by
    intro n
    rw [ofText_eq_ok_iff, ofSortedText_eq_ok_iff]
    apply exists_congr
    intro v
    apply and_congr_right
    intro hv
    exact (Node.sortsTo.sorted_eq_ok_iff (h v hv)).symm
  refine ⟨hagree, ?_, ?_⟩
  · intro path n
    rw [hagree, CommandLine.load_tree_eq_ok_iff]
  · cases htext : Node.ofText s with
    | ok n => exact .inl ⟨n, rfl, (hagree n).1 htext⟩
    | error fault =>
      cases hsorted : Node.ofSortedText s with
      | ok n => cases htext.symm.trans ((hagree n).2 hsorted)
      | error fault' => exact .inr ⟨fault, fault', rfl, rfl⟩

/-- A post with a card, where the members of the post, of the card and of its payload stand in
another order than that of their names. -/
def unsortedPost : String :=
  "\x7b\"type\":\"post\",\"sections\":[\x7b\"payload\":\x7b\"b\":1,\"a\":[]\x7d," ++
    "\"type\":\"card-section\",\"name\":\"x\"\x7d]\x7d"

theorem Node.ofText_agrees_unsortedPost :
    (∀ v, Json.parse? unsortedPost = some v → v.KeysDistinct) ∧
      ∃ n, n = Node.post ⟨[.card ⟨"x", .obj [("a", .arr []), ("b", .int 1)]⟩]⟩ ∧
        Node.ofText unsortedPost = .ok n ∧ Node.ofSortedText unsortedPost = .ok n ∧
        CommandLine.load unsortedPost "-" .tree = .ok n := by
  have hvalue : Json.parse? unsortedPost = some (.obj [("type", .str "post"), ("sections",
      .arr [.obj [("payload", .obj [("b", .int 1), ("a", .arr [])]), ("type", .str "card-section"),
        ("name", .str "x")]])]) := by decide +kernel
  have hdistinct : ∀ v, Json.parse? unsortedPost = some v → v.KeysDistinct := by
    intro v hv
    obtain rfl := Option.some.inj (hvalue.symm.trans hv)
    simp [Json.KeysDistinct, Json.KeysDistinctList, Json.KeysDistinctMembers]
  have htext : Node.ofText unsortedPost =
      .ok (.post ⟨[.card ⟨"x", .obj [("a", .arr []), ("b", .int 1)]⟩]⟩) := by decide +kernel
  obtain ⟨hagree, hload, -⟩ := Node.ofText_agrees_ofSortedText unsortedPost hdistinct
  exact ⟨hdistinct, _, rfl, htext, (hagree _).1 htext, (hload "-" _).1 htext⟩

end RichText

import RichText.Proofs.Document.RunNormalisation
import RichText.Proofs.Markdown.Lists

/-!
# Markdown import translates the tree

The importer reads a flat stream of events with one state. If the stream is the flattening of a
tree, each flush happens where the tree says, and no text is lost, repeated or moved.

**Theorem (`postOfEvents_contents`).** The sections of the document of a tree whose images are
described by formatted text say, in order, what the tree says (`Block.contents`).

Between two blocks outside lists nothing is open and nothing is held back (`atTop`), so that a block
only adds sections there (`Renders`). The proof is by induction on the tree with one lemma for each
way in which blocks end: `flushBlock_content` for paragraphs and headings, `finish_openList` for
lists.
-/

namespace RichText.Markdown
namespace Importer

/-! ## Between blocks -/

/-- The importer between two blocks outside lists. -/
def atTop (done : List Section) : Importer := { sections := done }

theorem pushBlock_atTop (done : List Section) (b : Section) :
    (atTop done).pushBlock b = atTop (done ++ [b]) := rfl

/-- Between two blocks, the events add sections that say `cs`, and nothing else. -/
def Renders (events : List Event) (cs : List Content) : Prop :=
  ∀ done : List Section, ∃ new : List Section,
    (atTop done).run events = atTop (done ++ new) ∧ new.map Section.content = cs

theorem renders_nil : Renders [] [] := fun done => ⟨[], by rw [List.append_nil, run_nil], rfl⟩

theorem Renders.append {es fs : List Event} {cs ds : List Content} (he : Renders es cs)
    (hf : Renders fs ds) : Renders (es ++ fs) (cs ++ ds) := by
  intro done
  obtain ⟨new, hnew, rfl⟩ := he done
  obtain ⟨more, hmore, rfl⟩ := hf (done ++ new)
  refine ⟨new ++ more, ?_, List.map_append⟩
  rw [run_append, hnew, hmore, List.append_assoc]

theorem Renders.other {es : List Event} {cs : List Content} (h : Renders es cs) :
    Renders (.start .other :: es ++ [.finish .other]) cs := by
  intro done
  obtain ⟨new, hnew, hcs⟩ := h done
  refine ⟨new, ?_, hcs⟩
  have hstart : (atTop done).step (.start .other) = atTop done := rfl
  rw [run_enclosed, hstart, hnew]
  rfl

theorem renders_block {events : List Event} {b : Section}
    (h : ∀ done, (atTop done).run events = (atTop done).pushBlock b) :
    Renders events [b.content] :=
  fun done => ⟨[b], (h done).trans (pushBlock_atTop done b), rfl⟩

/-- The open block at its end, where `runs` and `blocks` were collected in it. -/
theorem flushBlock_content (done : List Section) (tagName : String) (runs : List Run)
    (blocks : List Section) :
    ∃ new : List Section,
      (({ sections := done, blockTag := some tagName } : Importer).collect runs blocks).flushBlock =
          atTop (done ++ new) ∧
        new.map Section.content = textContents tagName (decodeRuns runs) blocks := by
  by_cases h : decodeRuns runs = []
  · have hm : markersFromRuns runs = [] := (markersFromRuns_eq_nil_iff runs).2 h
    refine ⟨blocks, ?_, ?_⟩
    · simp [flushBlock, blockSections, collect, atTop, MarkupSection.ofRuns, hm]
    · rw [textContents, if_pos h, List.nil_append]
  · have hm : markersFromRuns runs ≠ [] := fun hnil => h ((markersFromRuns_eq_nil_iff runs).1 hnil)
    refine ⟨.markup (.ofRuns tagName runs) :: blocks, ?_, ?_⟩
    · simp [flushBlock, blockSections, collect, atTop, MarkupSection.ofRuns, hm]
    · rw [textContents, if_neg h, List.map_cons, Section.content, MarkupSection.ofRuns,
        decode_markersFromRuns]
      rfl

theorem renders_text {first last : Event} {tagName : String} {content : List Inline}
    (hfirst : ∀ done, (atTop done).step first = { sections := done, blockTag := some tagName })
    (hlast : ∀ t : Importer, t.listDepth = 0 → t.step last = t.flushBlock)
    (hc : Inline.DescribedList content) :
    Renders (first :: Inline.eventsList content ++ [last])
      (textContents tagName (decodeRuns (Inline.runsList [] content))
        (Inline.imagesList content)) := by
  intro done
  have hopen : ({ sections := done, blockTag := some tagName } : Importer).Reading :=
    ⟨rfl, rfl, .inl rfl⟩
  rw [run_enclosed, hfirst, run_inlineList hopen content hc, hlast _ rfl]
  exact flushBlock_content done tagName _ _

/-- An outermost list that was opened after the sections `done`. -/
def openList (done : List Section) (l : ListSection) : Importer :=
  { sections := done, listDepth := 1, list := some l }

theorem finish_outermost {t : Importer} (h : t.listDepth = 1) :
    t.step (.finish .list) = ({ t.take .boundary with listDepth := 0 } : Importer).flushList := by
  change t.finishList = _
  rw [finishList, h, if_pos rfl, flushItem_eq_take]
  rfl

/-- The end of an outermost list, where pieces of text and blocks were gathered in it. -/
theorem finish_openList (done : List Section) (tagName : String) (ps : List ListPiece)
    (blocks : List Section) :
    ((openList done ⟨tagName, []⟩).gather ps blocks).step (.finish .list) =
      atTop (done ++ .list ⟨tagName, (passages ps).map .ofRuns⟩ :: blocks) := by
  have hdepth := listDepth_gather (s := openList done ⟨tagName, []⟩) ps blocks
  rw [finish_outermost hdepth, take_boundary_gather, gather_boundary rfl]
  simp [flushList, listSections, atTop, openList, passagesAfter_empty]

theorem renders_list (start : Option Nat) {items : List (List ItemPart)}
    (hi : ItemPart.DescribedItems items) :
    Renders (Block.list start items).events (Block.list start items).contents := by
  intro done
  have hopen : (openList done ⟨listTag start, []⟩).InList := ⟨rfl, rfl, rfl, Nat.one_pos⟩
  have hstart : (atTop done).step (.start (.list start)) = openList done ⟨listTag start, []⟩ := rfl
  refine ⟨.list ⟨listTag start, (passages (ItemPart.piecesItems items)).map .ofRuns⟩ ::
    ItemPart.heldItems items, ?_, ?_⟩
  · rw [Block.events, run_enclosed, hstart, run_items hopen items hi, finish_openList]
  · simp [Block.contents, Section.content, ListItem.ofRuns, decode_markersFromRuns]

/-! ## Documents -/

theorem tag_eq_headingTag (level : HeadingLevel) : level.tag = headingTag level := by
  cases level <;> rfl

mutual

/-- A block adds the sections that say what it says, and leaves nothing open. -/
theorem renders : (b : Block) → b.Described → Renders b.events b.contents
  | .paragraph _, hb => renders_text (fun _ => rfl) (fun _ ht => if_pos ht) hb
  | .heading level _, hb => by
    refine renders_text (fun done => ?_) (fun _ ht => if_pos ht) hb
    rw [← tag_eq_headingTag]
    rfl
  | .list start _, hb => renders_list start hb
  | .code info texts, _ => renders_block fun _ => run_code rfl rfl info texts
  | .rule, _ => renders_block (b := .card ⟨"hr", .obj []⟩) fun _ => rfl
  | .other children, hb => (renders_all children hb).other
  | .ignored, _ => fun done => ⟨[], by rw [List.append_nil]; rfl, rfl⟩

theorem renders_all :
    (bs : List Block) → Block.DescribedList bs →
      Renders (Block.eventsList bs) (Block.contentsList bs)
  | [], _ => renders_nil
  | b :: bs, ⟨hb, hbs⟩ => (renders b hb).append (renders_all bs hbs)

end

theorem sections_atTop (done : List Section) : (atTop done).toPost.sections = done := by
  simp [toPost, flushList, flushBlock, blockSections, listSections, atTop]

/-- Events that add sections between blocks give a document of these sections. -/
theorem Renders.contents {events : List Event} {cs : List Content} (h : Renders events cs) :
    (postOfEvents events).sections.map Section.content = cs := by
  obtain ⟨new, hnew, hcontent⟩ := h []
  have hpost : postOfEvents events = (atTop new).toPost := congrArg toPost hnew
  rw [hpost, sections_atTop, hcontent]

end Importer

/-- The document of a tree says what the tree says. -/
theorem postOfEvents_contents (bs : List Block) (h : Block.DescribedList bs) :
    (postOfEvents (Block.eventsList bs)).sections.map Section.content = Block.contentsList bs :=
  (Importer.renders_all bs h).contents

/-- A heading and a paragraph with images, a quoted list with another list and two paragraphs in its
item, and a code block. -/
def notes : List Block :=
  [.heading .h2 [.styled .strong [.text "A", .image "a.png" [.text "alt"]], .code "x"],
    .paragraph [.image "b.png" [.styled .emphasis [.text "alt"]]],
    .other [.list (some 3) [[.inline (.text "B"),
      .block (.list none [[.block (.paragraph [.text "C", .softBreak, .text "D"]), .block .rule,
        .block (.paragraph [.styled (.link "#") [.text "E"]])]]),
      .inline (.text "F"), .inline (.image "f.png" [])]]],
    .code (some "c") ["1", "2"]]

/-- What they say. -/
def notesContents : List Content :=
  [.text "h2" [('A', [⟨"strong", .empty⟩]), ('x', [⟨"code", .empty⟩])], .image "a.png",
    .image "b.png",
    .list "ol" [[('B', [])],
      [('C', []), (' ', []), ('D', []), (' ', []),
        ('E', [⟨"a", ⟨[("href", "#")], List.pairwise_singleton _ _⟩⟩])], [('F', [])]],
    .card ⟨"hr", .obj []⟩, .image "f.png",
    .card ⟨"code", .obj [("code", .str "12"), ("language", .str "c")]⟩]

theorem postOfEvents_contents_notes :
    Block.DescribedList notes ∧ Block.contentsList notes = notesContents ∧
      (postOfEvents (Block.eventsList notes)).sections.map Section.content = notesContents := by
  have hdescribed : Block.DescribedList notes := by
    simp [notes, Block.DescribedList, Block.Described, ItemPart.DescribedItems,
      ItemPart.DescribedList, ItemPart.Described, Inline.DescribedList, Inline.Described,
      Inline.IsTextList, Inline.IsText]
  have hcontents : Block.contentsList notes = notesContents := by decide +kernel
  exact ⟨hdescribed, hcontents, (postOfEvents_contents notes hdescribed).trans hcontents⟩

end RichText.Markdown

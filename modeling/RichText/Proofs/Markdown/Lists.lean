import RichText.Proofs.Markdown.Inlines

/-!
# Lists in a stream of events

What the importer does with the events of a list. The paragraphs, items and lists inside it act on
the state piece by piece (`take`), at every depth in the same way.

**Steps** (`run_block`). The events of anything in a list add its pieces and what it has besides
text (`gather`). How many lists are open makes no difference to that (`gather_listDepth`), so that a
nested list adds what its items add.

**Items** (`gather_boundary`). A piece may only change the runs read since the last boundary, so the
items that pieces add to the open list are the texts between boundaries, where the first of them
goes on after the runs before (`passagesAfter`).
-/

namespace RichText.Markdown
namespace Importer

variable {s : Importer}

/-! ## Inside lists -/

/-- A list is open, and nothing in it but the lists and containers that it stands in. -/
structure InList (s : Importer) : Prop where
  code : s.code = none
  inImage : s.inImage = false
  markups : s.markups = []
  depth : 0 < s.listDepth

theorem InList.reading (hs : s.InList) : s.Reading := ⟨hs.code, hs.inImage, .inr hs.depth⟩

/-- The runs after a piece of text. -/
def runsAfter (rs : List Run) : ListPiece → List Run
  | .run r => rs ++ [r]
  | .paragraph => if rs = [] then rs else rs ++ [⟨" ", []⟩]
  | .boundary => []

/-- The list after a piece of text: a boundary makes an item of the runs before it. -/
def listAfter (list : Option ListSection) (rs : List Run) : ListPiece → Option ListSection
  | .boundary =>
    if rs = [] then list else list.map fun l => { l with items := l.items ++ [.ofRuns rs] }
  | .run _ | .paragraph => list

/-- What a piece of text does in a list. -/
def take (s : Importer) (p : ListPiece) : Importer :=
  { s with list := listAfter s.list s.runs p, runs := runsAfter s.runs p }

theorem flushItem_eq_take : s.flushItem = s.take .boundary := by
  unfold flushItem take
  by_cases h : s.runs = []
  · have hs : ({ s with runs := [] } : Importer) = s := by rw [← h]
    simp [listAfter, runsAfter, h, hs]
  · simp [listAfter, runsAfter, h]

theorem startParagraph_eq_take (h : 0 < s.listDepth) : s.startParagraph = s.take .paragraph := by
  unfold startParagraph take
  rw [if_neg (Nat.ne_of_gt h)]
  by_cases hr : s.runs = []
  · have hs : ({ s with runs := [] } : Importer) = s := by rw [← hr]
    simp [listAfter, runsAfter, hr, hs]
  · simp [listAfter, runsAfter, hr]

/-- The state after pieces of text and blocks held back. -/
def gather (s : Importer) (ps : List ListPiece) (blocks : List Section) : Importer :=
  (ps.foldl take s).collect [] blocks

theorem gather_cons (p : ListPiece) (ps : List ListPiece) (b : List Section) :
    s.gather (p :: ps) b = (s.take p).gather ps b := rfl

theorem foldl_take_collect (b : List Section) (ps : List ListPiece) :
    ps.foldl take (s.collect [] b) = (ps.foldl take s).collect [] b := by
  induction ps generalizing s with
  | nil => rfl
  | cons p ps ih =>
    have hcomm : (s.collect [] b).take p = (s.take p).collect [] b := by
      simp [take, collect]
    rw [List.foldl_cons, List.foldl_cons, hcomm, ih]

theorem gather_gather (ps qs : List ListPiece) (b c : List Section) :
    (s.gather ps b).gather qs c = s.gather (ps ++ qs) (b ++ c) := by
  rw [gather, gather, foldl_take_collect, collect_collect, gather, List.foldl_append]
  rfl

theorem take_boundary_gather (ps : List ListPiece) (b : List Section) :
    (s.gather ps b).take .boundary = s.gather (ps ++ [.boundary]) b := by
  have h := gather_gather (s := s) ps [.boundary] b []
  rw [List.append_nil] at h
  rw [← h, gather_cons]
  exact collect_nil.symm

theorem gather_runs (rs : List Run) (b : List Section) :
    s.gather (rs.map .run) b = s.collect rs b := by
  induction rs generalizing s with
  | nil => rfl
  | cons r rs ih =>
    rw [List.map_cons, gather_cons, ih]
    simp [take, collect, listAfter, runsAfter]

/-- How many lists are open makes no difference to pieces of text. -/
theorem gather_listDepth (d : Nat) (ps : List ListPiece) (b : List Section) :
    ({ s with listDepth := d } : Importer).gather ps b = { s.gather ps b with listDepth := d } := by
  induction ps generalizing s with
  | nil => rfl
  | cons p ps ih => exact ih (s := s.take p)

theorem listDepth_gather (ps : List ListPiece) (b : List Section) :
    (s.gather ps b).listDepth = s.listDepth := by
  induction ps generalizing s with
  | nil => rfl
  | cons p ps ih => exact ih (s := s.take p)

theorem InList.take (hs : s.InList) (p : ListPiece) : (s.take p).InList :=
  ⟨hs.code, hs.inImage, hs.markups, hs.depth⟩

theorem InList.gather (hs : s.InList) (ps : List ListPiece) (b : List Section) :
    (s.gather ps b).InList := by
  induction ps generalizing s with
  | nil => exact ⟨hs.code, hs.inImage, hs.markups, hs.depth⟩
  | cons p ps ih => exact ih (hs.take p)

/-- The end of a paragraph or a heading ends no text in a list. -/
theorem InList.finishBlock_eq (hs : s.InList) : s.finishBlock = s :=
  if_neg (Nat.ne_of_gt hs.depth)

theorem run_inlines (hs : s.InList) {content : List Inline} (hc : Inline.DescribedList content) :
    s.run (Inline.eventsList content) =
      s.gather ((Inline.runsList [] content).map .run) (Inline.imagesList content) := by
  rw [run_inlineList hs.reading content hc, hs.markups, gather_runs]

/-- A list in a list: it ends the text before it, and then its items go on in the open list. -/
theorem run_nestedList (hs : s.InList) {start : Option Nat} {events : List Event}
    {ps : List ListPiece} {b : List Section}
    (h : ({ s with listDepth := s.listDepth + 1 } : Importer).flushItem.run events =
      ({ s with listDepth := s.listDepth + 1 } : Importer).flushItem.gather ps b) :
    s.run (.start (.list start) :: events ++ [.finish .list]) = s.gather (.boundary :: ps) b := by
  have hstart : s.step (.start (.list start)) =
      ({ s with listDepth := s.listDepth + 1 } : Importer).flushItem := by
    have hne : s.listDepth + 1 ≠ 1 := by
      have := hs.depth
      omega
    change s.startList start = _
    rw [startList, if_neg hne]
  -- the depth is back where it was, above zero, so that no list is complete yet
  have hfinish (t : Importer) (ht : t.listDepth = s.listDepth + 1) :
      t.step (.finish .list) = { t with listDepth := s.listDepth } := by
    change t.finishList = _
    rw [finishList, ht, Nat.add_sub_cancel, if_neg (Nat.ne_of_gt hs.depth)]
  rw [run_enclosed, hstart, h, flushItem_eq_take, hfinish _ (listDepth_gather ps b),
    ← gather_listDepth, gather_cons]
  rfl

mutual

/-- A block in a list adds its pieces of text and what it has besides, and nothing else. -/
theorem run_block {s : Importer} (hs : s.InList) :
    (b : Block) → b.Described → s.run b.events = s.gather b.pieces b.held
  | .paragraph content, hb => by
    have hstart : s.step (.start .paragraph) = s.take .paragraph :=
      startParagraph_eq_take hs.depth
    have htake := hs.take .paragraph
    rw [Block.events, run_enclosed, hstart, run_inlines htake hb]
    exact (htake.gather _ _).finishBlock_eq
  | .heading level content, hb => by
    have hstart : s.step (.start (.heading level)) = s := if_neg (Nat.ne_of_gt hs.depth)
    rw [Block.events, run_enclosed, hstart, run_inlines hs hb]
    exact (hs.gather _ _).finishBlock_eq
  | .list start items, hb => by
    have hdeep : ({ s with listDepth := s.listDepth + 1 } : Importer).flushItem.InList := by
      rw [flushItem_eq_take]
      exact ⟨hs.code, hs.inImage, hs.markups, Nat.succ_pos _⟩
    rw [Block.events, run_nestedList hs (run_items hdeep items hb)]
    rfl
  | .code info texts, _ => by
    rw [run_code hs.code hs.inImage, pushBlock_enclosed (.inr hs.depth)]
    rfl
  | .rule, _ => pushBlock_enclosed (.inr hs.depth) _
  | .other children, hb => by
    have hstart : s.step (.start .other) = s := rfl
    rw [Block.events, run_enclosed, hstart, run_blocks hs children hb]
    rfl
  | .ignored, _ => collect_nil.symm

theorem run_blocks {s : Importer} (hs : s.InList) :
    (bs : List Block) → Block.DescribedList bs →
      s.run (Block.eventsList bs) = s.gather (Block.piecesList bs) (Block.heldList bs)
  | [], _ => collect_nil.symm
  | b :: bs, ⟨hb, hbs⟩ => by
    rw [Block.eventsList, run_append, run_block hs b hb, run_blocks (hs.gather _ _) bs hbs,
      gather_gather]
    rfl

theorem run_part {s : Importer} (hs : s.InList) :
    (p : ItemPart) → p.Described → s.run p.events = s.gather p.pieces p.held
  | .inline i, hp => by
    rw [ItemPart.events, run_inline hs.reading i hp, hs.markups, ← gather_runs]
    rfl
  | .block b, hp => run_block hs b hp

theorem run_parts {s : Importer} (hs : s.InList) :
    (ps : List ItemPart) → ItemPart.DescribedList ps →
      s.run (ItemPart.eventsList ps) = s.gather (ItemPart.piecesList ps) (ItemPart.heldList ps)
  | [], _ => collect_nil.symm
  | p :: ps, ⟨hp, hps⟩ => by
    rw [ItemPart.eventsList, run_append, run_part hs p hp, run_parts (hs.gather _ _) ps hps,
      gather_gather]
    rfl

theorem run_items {s : Importer} (hs : s.InList) :
    (items : List (List ItemPart)) → ItemPart.DescribedItems items →
      s.run (ItemPart.eventsItems items) =
        s.gather (ItemPart.piecesItems items) (ItemPart.heldItems items)
  | [], _ => collect_nil.symm
  | item :: rest, ⟨hi, hr⟩ => by
    have hstart : s.step (.start .item) = s.take .boundary := flushItem_eq_take
    have hfinish (t : Importer) : t.step (.finish .item) = t.take .boundary := flushItem_eq_take
    have hitem := hs.take .boundary
    have hrest := hitem.gather (ItemPart.piecesList item ++ [.boundary]) (ItemPart.heldList item)
    rw [ItemPart.eventsItems, run_append, run_enclosed, hstart, run_parts hitem item hi, hfinish,
      take_boundary_gather, run_items hrest rest hr, gather_gather, ← gather_cons,
      ItemPart.piecesItems, ItemPart.heldItems]
    simp

end

/-! ## What a list holds -/

/-- The text up to the next boundary, where it goes on after the runs before. -/
def continued (before : List Run) (ps : List ListPiece) : List Run :=
  if before = [] then passage ps else before ++ ps.flatMap (·.runs)

theorem continued_nil (before : List Run) : continued before [] = before := by
  unfold continued
  by_cases h : before = []
  · rw [if_pos h, h]
    rfl
  · rw [if_neg h, List.flatMap_nil, List.append_nil]

theorem continued_cons (before : List Run) {p : ListPiece} (hp : p ≠ .boundary)
    (ps : List ListPiece) :
    continued before (p :: ps) = continued (runsAfter before p) ps := by
  unfold continued
  cases p with
  | run r =>
    by_cases h : before = []
    · simp [h, runsAfter, passage, ListPiece.runs]
    · simp [h, runsAfter, ListPiece.runs]
  | paragraph =>
    by_cases h : before = []
    · simp [h, runsAfter, passage]
    · simp [h, runsAfter, ListPiece.runs]
  | boundary => exact absurd rfl hp

/-- The texts between boundaries, where the first goes on after the runs before. -/
def passagesAfter (before : List Run) (ps : List ListPiece) : List (List Run) :=
  match ps.splitOn .boundary with
  | first :: rest => (continued before first :: rest.map passage).filter (· ≠ [])
  | [] => []

theorem passagesAfter_empty (ps : List ListPiece) : passagesAfter [] ps = passages ps := by
  unfold passagesAfter passages
  cases ps.splitOn .boundary with
  | nil => rfl
  | cons first rest => rfl

theorem passagesAfter_nil (before : List Run) :
    passagesAfter before [] = if before = [] then [] else [before] := by
  rw [passagesAfter, List.splitOn_nil]
  by_cases h : before = []
  · simp [h, continued_nil]
  · simp [h, continued_nil]

theorem passagesAfter_cons (before : List Run) {p : ListPiece} (hp : p ≠ .boundary)
    (ps : List ListPiece) :
    passagesAfter before (p :: ps) = passagesAfter (runsAfter before p) ps := by
  have hne : (p == .boundary) = false := beq_eq_false_iff_ne.2 hp
  unfold passagesAfter
  rw [List.splitOn_cons_eq_if_modifyHead, hne]
  cases hs : ps.splitOn .boundary with
  | nil => exact absurd hs (List.splitOn_ne_nil _ ps)
  | cons first rest => simp [continued_cons before hp]

theorem passagesAfter_boundary (before : List Run) (ps : List ListPiece) :
    passagesAfter before (.boundary :: ps) =
      (if before = [] then [] else [before]) ++ passages ps := by
  unfold passagesAfter passages
  rw [List.splitOn_cons_eq_if_modifyHead]
  by_cases h : before = []
  · simp [h, continued_nil]
  · simp [h, continued_nil]

theorem listAfter_boundary (l : ListSection) (rs : List Run) :
    listAfter (some l) rs .boundary =
      some { l with
        items := l.items ++ (if rs = [] then [] else [rs]).map ListItem.ofRuns } := by
  by_cases h : rs = []
  · simp [listAfter, h]
  · simp [listAfter, h]

/-- Up to a last boundary, the pieces add one item to the open list for each of their texts. -/
theorem gather_boundary {l : ListSection} (hl : s.list = some l) (ps : List ListPiece)
    (b : List Section) :
    s.gather (ps ++ [.boundary]) b =
      { s with
        list := some { l with
          items := l.items ++ (passagesAfter s.runs ps).map ListItem.ofRuns }
        runs := []
        pending := s.pending ++ b } := by
  induction ps generalizing s l with
  | nil =>
    rw [List.nil_append, gather_cons, passagesAfter_nil, ← listAfter_boundary, ← hl]
    simp [gather, collect, take, runsAfter]
  | cons p ps ih =>
    rw [List.cons_append, gather_cons]
    -- only a boundary changes the list; the texts after it do not depend on those before
    by_cases hp : p = .boundary
    · have hlist : (s.take p).list = listAfter (some l) s.runs .boundary := by rw [hp, take, hl]
      have hruns : (s.take p).runs = [] := by rw [hp]; rfl
      rw [ih (hlist.trans (listAfter_boundary l s.runs)), hruns, hp, passagesAfter_boundary,
        passagesAfter_empty, List.map_append, List.append_assoc]
      rfl
    · have hlist : (s.take p).list = some l := by
        cases p with
        | boundary => exact absurd rfl hp
        | run r => exact hl
        | paragraph => exact hl
      rw [ih hlist, passagesAfter_cons s.runs hp]
      rfl

end Importer
end RichText.Markdown

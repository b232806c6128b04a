import RichText.Proofs.Markdown.PrunedTrees

/-!
# What the items of a list are made of

In a list, paragraphs, headings and text that stands by itself share items. The source of an item is
a list of such parts (`TextPart`), those between two places where the text of an item begins or
ends. What leaks out of descriptions of images belongs to the part around it.

**Joining (`joinParts`).** A paragraph is separated by a space from what is before it in the item.
Nothing separates a heading.

**Theorem (`items_separated`).** The items of a document are the joined parts of its source. So two
blocks that share an item are kept apart where a paragraph begins between them or with the second
one, and otherwise only by white space in other parts between them.
-/

namespace RichText.Markdown

/-! ## Parts of items -/

/-- Where a part of the text of an item comes from: text that stands in the item by itself, a
paragraph or a heading. -/
inductive TextKind where
  | loose
  | paragraph
  | heading
deriving DecidableEq

/-- A part of the text of an item. -/
structure TextPart where
  kind : TextKind
  runs : List Run
deriving DecidableEq

namespace TextPart

/-- What separates a part from what is before it in its item. -/
def separator (p : TextPart) : List Run :=
  match p.kind with
  | .paragraph => [⟨" ", []⟩]
  | .loose | .heading => []

/-- What a part itself says. -/
def chars (p : TextPart) : List StyledChar := decodeRuns p.runs

/-- A part as pieces of the text of a list. -/
def pieces (p : TextPart) : List ListPiece :=
  match p.kind with
  | .paragraph => .paragraph :: p.runs.map .run
  | .loose | .heading => p.runs.map .run

end TextPart

mutual

/-- The parts of the text of a block in a list; in place of `none` the text of an item begins or
ends. -/
def Block.textParts : Block → List (Option TextPart)
  | .paragraph content => [some ⟨.paragraph, Inline.runsList [] content⟩]
  | .heading _ content => [some ⟨.heading, Inline.runsList [] content⟩]
  | .list _ items => none :: ItemPart.textPartsItems items
  | .other children => Block.textPartsList children
  | .code _ _ | .rule | .ignored => []

def Block.textPartsList : List Block → List (Option TextPart)
  | [] => []
  | b :: rest => b.textParts ++ Block.textPartsList rest

def ItemPart.textParts : ItemPart → List (Option TextPart)
  | .inline i => [some ⟨.loose, i.runs []⟩]
  | .block b => b.textParts

def ItemPart.textPartsList : List ItemPart → List (Option TextPart)
  | [] => []
  | p :: rest => p.textParts ++ ItemPart.textPartsList rest

def ItemPart.textPartsItems : List (List ItemPart) → List (Option TextPart)
  | [] => []
  | item :: rest => none :: ItemPart.textPartsList item ++ none :: ItemPart.textPartsItems rest

end

/-- The text of parts that follow `before` in an item. -/
def joinAfter (before : List Run) : List TextPart → List Run
  | [] => before
  | p :: rest => joinAfter ((if before = [] then [] else before ++ p.separator) ++ p.runs) rest

/-- The text of an item made of parts. -/
def joinParts (ps : List TextPart) : List Run := joinAfter [] ps

/-- The parts between boundaries. -/
def cutAtBoundaries : List (Option TextPart) → List (List TextPart)
  | [] => [[]]
  | none :: rest => [] :: cutAtBoundaries rest
  | some p :: rest => (cutAtBoundaries rest).modifyHead (p :: ·)

/-- The sources of items: the parts between boundaries, where there is any text. -/
def itemSources (ps : List (Option TextPart)) : List (List TextPart) :=
  (cutAtBoundaries ps).filter (joinParts · ≠ [])

mutual

/-- The outermost lists of a block, by their items. -/
def Block.lists : Block → List (List (List ItemPart))
  | .list _ items => [items]
  | .other children => Block.listsList children
  | .paragraph _ | .heading _ _ | .code _ _ | .rule | .ignored => []

def Block.listsList : List Block → List (List (List ItemPart))
  | [] => []
  | b :: rest => b.lists ++ Block.listsList rest

end

/-- The sources of all items of lists in a tree. -/
def sourcesOfItems (bs : List Block) : List (List TextPart) :=
  (Block.listsList (Block.unframedList bs)).flatMap fun items =>
    itemSources (ItemPart.textPartsItems items)

/-! ## Pieces -/

namespace Importer

theorem continued_runs (before rs : List Run) (ps : List ListPiece) :
    continued before (rs.map .run ++ ps) = continued (before ++ rs) ps := by
  induction rs generalizing before with
  | nil => rw [List.map_nil, List.nil_append, List.append_nil]
  | cons r rs ih =>
    rw [List.map_cons, List.cons_append, continued_cons before (by simp), ih, runsAfter,
      List.append_assoc, List.singleton_append]

theorem continued_pieces (before : List Run) (p : TextPart) (ps : List ListPiece) :
    continued before (p.pieces ++ ps) =
      continued ((if before = [] then [] else before ++ p.separator) ++ p.runs) ps := by
  obtain ⟨kind, rs⟩ := p
  cases kind with
  | paragraph =>
    show continued before (.paragraph :: (rs.map .run ++ ps)) = _
    rw [continued_cons before (by simp), continued_runs]
    by_cases h : before = [] <;> simp [h, runsAfter, TextPart.separator]
  | loose | heading =>
    show continued before (rs.map .run ++ ps) = _
    rw [continued_runs]
    by_cases h : before = [] <;> simp [h, TextPart.separator]

theorem continued_flatMap_pieces (before : List Run) (ps : List TextPart) :
    continued before (ps.flatMap TextPart.pieces) = joinAfter before ps := by
  induction ps generalizing before with
  | nil => exact continued_nil before
  | cons p ps ih => rw [List.flatMap_cons, continued_pieces, ih, joinAfter]

end Importer

/-- What stands between two boundaries is the text of the parts there. -/
theorem passage_flatMap_pieces (ps : List TextPart) :
    passage (ps.flatMap TextPart.pieces) = joinParts ps :=
  Importer.continued_flatMap_pieces [] ps

/-- The pieces of a part or a boundary. -/
def piecesOf : Option TextPart → List ListPiece
  | some p => p.pieces
  | none => [.boundary]

theorem splitOn_append {xs : List ListPiece} (hx : .boundary ∉ xs) (ys : List ListPiece) :
    (xs ++ ys).splitOn .boundary = (ys.splitOn .boundary).modifyHead (xs ++ ·) := by
  induction xs with
  | nil => cases h : ys.splitOn .boundary <;> simp [h]
  | cons x xs ih =>
    rw [List.mem_cons, not_or] at hx
    have hne : (x == .boundary) = false := beq_eq_false_iff_ne.2 (Ne.symm hx.1)
    rw [List.cons_append, List.splitOn_cons_eq_if_modifyHead, hne, ih hx.2]
    cases ys.splitOn .boundary <;> simp

theorem boundary_notMem_pieces (p : TextPart) : .boundary ∉ p.pieces := by
  obtain ⟨kind, rs⟩ := p
  cases kind <;> simp [TextPart.pieces]

theorem splitOn_flatMap_piecesOf (ps : List (Option TextPart)) :
    (ps.flatMap piecesOf).splitOn .boundary =
      (cutAtBoundaries ps).map fun qs => qs.flatMap TextPart.pieces := by
  induction ps with
  | nil => simp [cutAtBoundaries]
  | cons p ps ih =>
    rw [List.flatMap_cons]
    cases p with
    | none => simp [piecesOf, cutAtBoundaries, List.splitOn_cons_eq_if_modifyHead, ih]
    | some p =>
      rw [piecesOf, splitOn_append (boundary_notMem_pieces p), ih, cutAtBoundaries]
      cases cutAtBoundaries ps <;> simp

/-- The texts between boundaries are those of the sources of items. -/
theorem passages_flatMap_piecesOf (ps : List (Option TextPart)) :
    passages (ps.flatMap piecesOf) = (itemSources ps).map joinParts := by
  have hpassage : (passage ∘ fun qs : List TextPart => qs.flatMap TextPart.pieces) = joinParts :=
    funext passage_flatMap_pieces
  rw [passages, splitOn_flatMap_piecesOf, List.map_map, hpassage, List.filter_map, itemSources]
  rfl

mutual

theorem pieces_eq_flatMap : (b : Block) → b.pieces = b.textParts.flatMap piecesOf
  | .paragraph content | .heading _ content => by
    simp [Block.pieces, Block.textParts, piecesOf, TextPart.pieces]
  | .list _ items => by
    rw [Block.pieces, Block.textParts, piecesItems_eq_flatMap items]
    rfl
  | .other children => by
    rw [Block.pieces, Block.textParts, piecesList_eq_flatMap children]
  | .code _ _ | .rule | .ignored => rfl

theorem piecesList_eq_flatMap :
    (bs : List Block) → Block.piecesList bs = (Block.textPartsList bs).flatMap piecesOf
  | [] => rfl
  | b :: bs => by
    rw [Block.piecesList, Block.textPartsList, pieces_eq_flatMap b, piecesList_eq_flatMap bs,
      List.flatMap_append]

theorem partPieces_eq_flatMap : (p : ItemPart) → p.pieces = p.textParts.flatMap piecesOf
  | .inline i => by simp [ItemPart.pieces, ItemPart.textParts, piecesOf, TextPart.pieces]
  | .block b => pieces_eq_flatMap b

theorem partsPieces_eq_flatMap :
    (ps : List ItemPart) → ItemPart.piecesList ps = (ItemPart.textPartsList ps).flatMap piecesOf
  | [] => rfl
  | p :: ps => by
    rw [ItemPart.piecesList, ItemPart.textPartsList, partPieces_eq_flatMap p,
      partsPieces_eq_flatMap ps, List.flatMap_append]

theorem piecesItems_eq_flatMap : (items : List (List ItemPart)) →
    ItemPart.piecesItems items = (ItemPart.textPartsItems items).flatMap piecesOf
  | [] => rfl
  | item :: rest => by
    rw [ItemPart.piecesItems, ItemPart.textPartsItems, partsPieces_eq_flatMap item,
      piecesItems_eq_flatMap rest]
    simp [piecesOf]

end

/-! ## Items of documents -/

/-- The items of a list. -/
def Content.items : Content → List (List StyledChar)
  | .list _ items => items
  | .text _ _ | .image _ | .card _ => []

/-- What the items of lists in sections say, in order. -/
def itemsSaid (bs : List Section) : List (List StyledChar) :=
  (bs.map Section.content).flatMap Content.items

theorem itemsSaid_imageless (bs : List Section) : itemsSaid (imageless bs) = itemsSaid bs := by
  induction bs with
  | nil => rfl
  | cons b bs ih =>
    have hsplit : itemsSaid (b :: bs) = b.content.items ++ itemsSaid bs := rfl
    rw [hsplit, ← ih]
    cases b <;> rfl

/-- Images and cards have no items. -/
theorem itemsSaid_of_isObject {bs : List Section} (h : ∀ b ∈ bs, b.isObject = true) :
    itemsSaid bs = [] := by
  rw [itemsSaid, List.flatMap_map, List.flatMap_eq_nil_iff]
  intro b hb
  cases b with
  | markup s => exact absurd (h _ hb) Bool.false_ne_true
  | list s => exact absurd (h _ hb) Bool.false_ne_true
  | image s => rfl
  | card c => rfl

/-- What the items of a list say. -/
def saidBySources (items : List (List ItemPart)) : List (List StyledChar) :=
  (itemSources (ItemPart.textPartsItems items)).map fun ps => decodeRuns (joinParts ps)

theorem items_textContents (tagName : String) (chars : List StyledChar) (content : List Inline) :
    (textContents tagName chars (Inline.imagesList content)).flatMap Content.items = [] := by
  rw [textContents, List.flatMap_append, ← itemsSaid,
    itemsSaid_of_isObject (isObject_imagesList content)]
  split <;> rfl

mutual

theorem items_contents : (b : Block) →
    b.contents.flatMap Content.items = b.lists.flatMap saidBySources
  | .paragraph content | .heading _ content => items_textContents _ _ content
  | .list _ items => by
    rw [Block.contents, List.flatMap_cons, ← itemsSaid,
      itemsSaid_of_isObject (isObject_heldItems items), Content.items,
      piecesItems_eq_flatMap, passages_flatMap_piecesOf, List.map_map]
    simp [Block.lists, saidBySources]
  | .other children => items_contentsList children
  | .code _ _ | .rule | .ignored => rfl

theorem items_contentsList : (bs : List Block) →
    (Block.contentsList bs).flatMap Content.items = (Block.listsList bs).flatMap saidBySources
  | [] => rfl
  | b :: bs => by
    rw [Block.contentsList, Block.listsList, List.flatMap_append, List.flatMap_append,
      items_contents b, items_contentsList bs]

end

/-- The items of the document of a tree are the joined parts of their sources. -/
theorem itemsSaid_postOfEvents (bs : List Block) :
    itemsSaid (postOfEvents (Block.eventsList bs)).sections =
      (sourcesOfItems bs).map fun ps => decodeRuns (joinParts ps) := by
  rw [← itemsSaid_imageless, itemsSaid, contents_imageless, items_contentsList, sourcesOfItems,
    List.map_flatMap]
  rfl

/-! ## Separation -/

/-- What stands between two parts of an item: the parts between them, and what separates the
second one. -/
def gap (between : List TextPart) (next : TextPart) : List StyledChar :=
  decodeRuns (between.flatMap (fun p => p.separator ++ p.runs) ++ next.separator)

theorem joinAfter_of_ne_nil {before : List Run} (h : before ≠ []) (ps : List TextPart) :
    joinAfter before ps = before ++ ps.flatMap fun p => p.separator ++ p.runs := by
  induction ps generalizing before with
  | nil => exact (List.append_nil before).symm
  | cons p ps ih =>
    rw [joinAfter, if_neg h, ih (by simp [h]), List.flatMap_cons]
    simp

theorem joinAfter_append (before : List Run) (ps qs : List TextPart) :
    joinAfter before (ps ++ qs) = joinAfter (joinAfter before ps) qs := by
  induction ps generalizing before with
  | nil => rfl
  | cons p ps ih => exact ih _

/-- After a part with text come the separated parts that follow it. -/
theorem decodeRuns_joinParts (before after between : List TextPart) {first : TextPart}
    (next : TextPart) (h : first.chars ≠ []) :
    ∃ u v, decodeRuns (joinParts (before ++ first :: between ++ next :: after)) =
      u ++ first.chars ++ gap between next ++ next.chars ++ v := by
  have hruns : first.runs ≠ [] := fun hnil => h (by rw [TextPart.chars, hnil]; rfl)
  obtain ⟨start, hstart⟩ : ∃ start, joinAfter (joinAfter [] before) [first] = start ++ first.runs :=
    ⟨_, rfl⟩
  have hne : start ++ first.runs ≠ [] := by simp [hruns]
  have hsplit : before ++ first :: between ++ next :: after =
      (before ++ [first]) ++ (between ++ next :: after) := by simp
  refine ⟨decodeRuns start, decodeRuns (after.flatMap fun p => p.separator ++ p.runs), ?_⟩
  rw [joinParts, hsplit, joinAfter_append [] (before ++ [first]), joinAfter_append [] before,
    hstart, joinAfter_of_ne_nil hne]
  simp [gap, TextPart.chars, decodeRuns_append]

theorem gap_of_paragraph {between : List TextPart} {next : TextPart}
    (h : ∃ p ∈ between ++ [next], p.kind = .paragraph) :
    ∃ c ∈ gap between next, c.1.isWhitespace = true := by
  obtain ⟨p, hp, hkind⟩ := h
  have hsep : p.separator = [⟨" ", []⟩] := by rw [TextPart.separator, hkind]
  have hspace : (' ', []) ∈ decodeRuns p.separator := by rw [hsep]; decide
  refine ⟨(' ', []), ?_, rfl⟩
  rw [gap, decodeRuns_append, List.mem_append]
  rcases List.mem_append.1 hp with hp | hp
  · left
    obtain ⟨as, bs, rfl⟩ := List.append_of_mem hp
    simp [hspace]
  · right
    rwa [← List.mem_singleton.1 hp]

theorem gap_of_no_paragraph {between : List TextPart} {next : TextPart}
    (h : ∀ p ∈ between ++ [next], p.kind ≠ .paragraph) :
    gap between next = between.flatMap TextPart.chars := by
  have hsep : ∀ p ∈ between ++ [next], p.separator = [] := by
    rintro ⟨kind, rs⟩ hp
    cases kind with
    | paragraph => exact absurd rfl (h _ hp)
    | loose | heading => rfl
  rw [gap, hsep next (by simp), List.append_nil]
  have hbetween : ∀ p ∈ between, p.separator = [] := fun p hp => hsep p (by simp [hp])
  clear h hsep
  induction between with
  | nil => rfl
  | cons p ps ih =>
    rw [List.flatMap_cons, List.flatMap_cons, decodeRuns_append, hbetween p (by simp),
      ih fun q hq => hbetween q (by simp [hq])]
    rfl

/-- There is white space between two parts just if a paragraph begins after the first one, up to
the second, or a part between them has some. -/
theorem whitespace_gap_iff (between : List TextPart) (next : TextPart) :
    (∃ c ∈ gap between next, c.1.isWhitespace = true) ↔
      (∃ p ∈ between ++ [next], p.kind = .paragraph) ∨
        ∃ p ∈ between, ∃ c ∈ p.chars, c.1.isWhitespace = true := by
  by_cases h : ∃ p ∈ between ++ [next], p.kind = .paragraph
  · exact iff_of_true (gap_of_paragraph h) (.inl h)
  · have hnone : ∀ p ∈ between ++ [next], p.kind ≠ .paragraph :=
      fun p hp hkind => h ⟨p, hp, hkind⟩
    rw [gap_of_no_paragraph hnone, or_iff_right h]
    constructor
    · rintro ⟨c, hc, hspace⟩
      obtain ⟨p, hp, hc⟩ := List.mem_flatMap.1 hc
      exact ⟨p, hp, c, hc, hspace⟩
    · rintro ⟨p, hp, c, hc, hspace⟩
      exact ⟨c, List.mem_flatMap.2 ⟨p, hp, hc⟩, hspace⟩

/-- **The parts of items that are kept apart.** The items of a document are the joined parts of
their sources. Between two parts of an item, the first with text, there is white space just if a
paragraph begins after the first one, up to the second, or there is some in the parts between
them. -/
theorem items_separated (bs : List Block) :
    itemsSaid (postOfEvents (Block.eventsList bs)).sections =
        (sourcesOfItems bs).map (fun ps => decodeRuns (joinParts ps)) ∧
      ∀ ps ∈ sourcesOfItems bs, ∀ before first between next after,
        ps = before ++ first :: between ++ next :: after → first.chars ≠ [] →
          (∃ u v, decodeRuns (joinParts ps) =
            u ++ first.chars ++ gap between next ++ next.chars ++ v) ∧
          ((∃ c ∈ gap between next, c.1.isWhitespace = true) ↔
            (∃ p ∈ between ++ [next], p.kind = .paragraph) ∨
              ∃ p ∈ between, ∃ c ∈ p.chars, c.1.isWhitespace = true) := by
  refine ⟨itemsSaid_postOfEvents bs, ?_⟩
  rintro ps - before first between next after rfl hfirst
  exact ⟨decodeRuns_joinParts before after between next hfirst, whitespace_gap_iff between next⟩

/-- A list whose item is shared by a paragraph, a heading and a quoted paragraph. -/
def shared : List Block :=
  [.list none [[.block (.paragraph [.text "a"]), .block (.heading .h1 [.text "b"]),
    .block (.other [.paragraph [.code "c"]])]]]

/-- The source of the item. -/
def sharedParts : List TextPart :=
  [⟨.paragraph, [⟨"a", []⟩]⟩, ⟨.heading, [⟨"b", []⟩]⟩, ⟨.paragraph, [⟨"c", [⟨"code", .empty⟩]⟩]⟩]

theorem items_separated_shared :
    sourcesOfItems shared = [sharedParts] ∧
      itemsSaid (postOfEvents (Block.eventsList shared)).sections =
        [[('a', []), ('b', []), (' ', []), ('c', [⟨"code", .empty⟩])]] ∧
      (∃ c ∈ gap [⟨.heading, [⟨"b", []⟩]⟩] ⟨.paragraph, [⟨"c", [⟨"code", .empty⟩]⟩]⟩,
        c.1.isWhitespace = true) ∧
      ¬∃ c ∈ gap [] ⟨.heading, [⟨"b", []⟩]⟩, c.1.isWhitespace = true := by
  have hsources : sourcesOfItems shared = [sharedParts] := by decide +kernel
  have hmem : sharedParts ∈ sourcesOfItems shared := by simp [hsources]
  obtain ⟨hsaid, hparts⟩ := items_separated shared
  have hchars : (⟨.paragraph, [⟨"a", []⟩]⟩ : TextPart).chars ≠ [] := by decide
  have hquote := (hparts sharedParts hmem [] _ [⟨.heading, [⟨"b", []⟩]⟩] _ [] rfl hchars).2
  have hheading := (hparts sharedParts hmem [] _ [] _
    [⟨.paragraph, [⟨"c", [⟨"code", .empty⟩]⟩]⟩] rfl hchars).2
  refine ⟨hsources, ?_, hquote.2 (by decide), fun hspace => ?_⟩
  · rw [hsaid, hsources]
    decide
  · exact absurd (hheading.1 hspace) (by decide)

/-- A heading that follows a paragraph in an item is glued to it. -/
theorem not_blocks_separated :
    ¬∀ bs : List Block, ∀ ps ∈ sourcesOfItems bs, ∀ before between after first next,
      ps = before ++ first :: between ++ next :: after →
        first.kind ≠ .loose → next.kind ≠ .loose → first.chars ≠ [] → next.chars ≠ [] →
          ∃ c ∈ gap between next, c.1.isWhitespace = true := by
  intro h
  have hglued : [⟨.paragraph, [⟨"a", []⟩]⟩, ⟨.heading, [⟨"b", []⟩]⟩] ∈ sourcesOfItems
      [.list none [[.block (.paragraph [.text "a"]), .block (.heading .h1 [.text "b"])]]] := by
    decide +kernel
  obtain ⟨c, hc, -⟩ :=
    h _ _ hglued [] [] [] _ _ rfl (by decide) (by decide) (by decide) (by decide)
  have hempty : gap [] ⟨.heading, [⟨"b", []⟩]⟩ = [] := by decide
  rw [hempty] at hc
  exact absurd hc List.not_mem_nil

end RichText.Markdown

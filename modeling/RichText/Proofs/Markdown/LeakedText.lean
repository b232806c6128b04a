import RichText.Proofs.Markdown.PrunedTrees

/-!
# What leaks out of descriptions is text of the document

Taking the text out of the descriptions of images takes runs out of the text of the document, those
of the events that leak (`drops_inline`). A run that is taken out may take the space before a
paragraph with it, but none is added. So the document gets shorter by what leaks at least
(`length_blocks`), and it stays the same only if nothing leaks.

**Theorem (`postOfEvents_descriptions`).** Descriptions leave no trace in a document if nothing
leaks out of them, and they leave one if anything that is not empty does.
-/

namespace RichText.Markdown

/-! ## What events say -/

/-- The text of an event. -/
def Event.said : Event → String
  | .text t | .code t => t
  | .softBreak => " "
  | .hardBreak => "\n"
  | .start _ | .finish _ | .rule | .other => ""

/-- How many characters events say. -/
def saidLength (events : List Event) : Nat := (events.flatMap (·.said.toList)).length

theorem saidLength_append (es fs : List Event) :
    saidLength (es ++ fs) = saidLength es + saidLength fs := by
  simp [saidLength]

/-! ## Pieces of text that are left out -/

/-- The second pieces are the first without some of their runs, in which there are `n`
characters. -/
inductive Drops : Nat → List ListPiece → List ListPiece → Prop
  | nil : Drops 0 [] []
  | keep {n : Nat} {ps qs : List ListPiece} (p : ListPiece) (h : Drops n ps qs) :
    Drops n (p :: ps) (p :: qs)
  | drop {n : Nat} {ps qs : List ListPiece} (r : Run) (h : Drops n ps qs) :
    Drops (r.text.length + n) (.run r :: ps) qs

namespace Drops

variable {m n : Nat} {ps qs ps' qs' : List ListPiece}

theorem refl (ps : List ListPiece) : Drops 0 ps ps := by
  induction ps with
  | nil => exact .nil
  | cons p ps ih => exact .keep p ih

theorem append (h : Drops m ps qs) (h' : Drops n ps' qs') :
    Drops (m + n) (ps ++ ps') (qs ++ qs') := by
  induction h with
  | nil => rwa [Nat.zero_add]
  | keep p _ ih => exact .keep p ih
  | drop r _ ih =>
    rw [Nat.add_assoc]
    exact .drop r ih

theorem single (r : Run) : Drops r.text.length [.run r] [] := .drop r .nil

end Drops

/-- How many characters runs say. -/
def runsLength (rs : List Run) : Nat := (decodeRuns rs).length

theorem runsLength_append (rs ts : List Run) :
    runsLength (rs ++ ts) = runsLength rs + runsLength ts := by
  simp [runsLength]

theorem runsLength_singleton (r : Run) : runsLength [r] = r.text.length := by
  simp [runsLength, decodeRuns, styled, String.length_toList]

/-- How many characters texts say in all. -/
def textsLength (texts : List (List Run)) : Nat := (texts.flatMap decodeRuns).length

theorem textsLength_append (xs ys : List (List Run)) :
    textsLength (xs ++ ys) = textsLength xs + textsLength ys := by
  simp [textsLength]

/-- Where there are no runs, there is no text. -/
theorem textsLength_ite (before : List Run) :
    textsLength (if before = [] then [] else [before]) = runsLength before := by
  by_cases h : before = []
  · rw [if_pos h, h]
    rfl
  · simp [if_neg h, textsLength, runsLength]

namespace Importer

theorem textsLength_passagesAfter_nil (before : List Run) :
    textsLength (passagesAfter before []) = runsLength before := by
  rw [passagesAfter_nil, textsLength_ite]

theorem textsLength_passagesAfter_boundary (before : List Run) (ps : List ListPiece) :
    textsLength (passagesAfter before (.boundary :: ps)) =
      runsLength before + textsLength (passages ps) := by
  rw [passagesAfter_boundary, textsLength_append, textsLength_ite]

/-- The runs `short` say less than the runs `long`, by `k` characters at least. A paragraph is
separated from `short` only if it is from `long`. -/
structure Shorter (k : Nat) (short long : List Run) : Prop where
  started : short ≠ [] → long ≠ []
  length : runsLength short + k ≤ runsLength long

theorem shorter_nil : Shorter 0 [] [] := ⟨fun h => h, Nat.le_refl 0⟩

theorem Shorter.runsAfter {k : Nat} {short long : List Run} (h : Shorter k short long)
    {p : ListPiece} (hp : p ≠ .boundary) :
    Shorter k (Importer.runsAfter short p) (Importer.runsAfter long p) := by
  obtain ⟨hstarted, hlength⟩ := h
  cases p with
  | run r =>
    refine ⟨fun _ => by simp [Importer.runsAfter], ?_⟩
    rw [Importer.runsAfter, Importer.runsAfter, runsLength_append, runsLength_append]
    omega
  | paragraph =>
    by_cases hl : long = []
    · have hs : short = [] := by
        by_contra hs
        exact hstarted hs hl
      rw [Importer.runsAfter, Importer.runsAfter, if_pos hs, if_pos hl]
      exact ⟨hstarted, hlength⟩
    · rw [Importer.runsAfter, Importer.runsAfter, if_neg hl]
      refine ⟨fun _ => by simp, ?_⟩
      rw [runsLength_append]
      split
      · omega
      · rw [runsLength_append]
        omega
  | boundary => exact absurd rfl hp

end Importer

/-- The texts of a list get shorter by the runs that are left out, at least. -/
theorem Drops.length_passagesAfter {n : Nat} {ps qs : List ListPiece} (h : Drops n ps qs)
    {k : Nat} {short long : List Run} (hs : Importer.Shorter k short long) :
    textsLength (Importer.passagesAfter short qs) + (n + k) ≤
      textsLength (Importer.passagesAfter long ps) := by
  induction h generalizing k short long with
  | nil =>
    rw [Importer.textsLength_passagesAfter_nil, Importer.textsLength_passagesAfter_nil,
      Nat.zero_add]
    exact hs.length
  | keep p h ih =>
    by_cases hp : p = .boundary
    · -- the texts after a boundary do not depend on those before
      have hrest := ih Importer.shorter_nil
      rw [Importer.passagesAfter_empty, Importer.passagesAfter_empty] at hrest
      have hlength := hs.length
      rw [hp, Importer.textsLength_passagesAfter_boundary,
        Importer.textsLength_passagesAfter_boundary]
      omega
    · rw [Importer.passagesAfter_cons _ hp, Importer.passagesAfter_cons _ hp]
      exact ih (hs.runsAfter hp)
  | drop r h ih =>
    rw [Importer.passagesAfter_cons _ (by simp)]
    have hmore : Importer.Shorter (r.text.length + k) short (Importer.runsAfter long (.run r)) := by
      refine ⟨fun _ => by simp [Importer.runsAfter], ?_⟩
      have hlength := hs.length
      rw [Importer.runsAfter, runsLength_append, runsLength_singleton]
      omega
    have hrest := ih hmore
    omega

theorem Drops.length_passages {n : Nat} {ps qs : List ListPiece} (h : Drops n ps qs) :
    textsLength (passages qs) + n ≤ textsLength (passages ps) := by
  rw [← Importer.passagesAfter_empty, ← Importer.passagesAfter_empty]
  exact h.length_passagesAfter Importer.shorter_nil

theorem textsLength_passages_runs (rs : List Run) :
    textsLength (passages (rs.map .run)) = runsLength rs := by
  suffices h : ∀ before, textsLength (Importer.passagesAfter before (rs.map .run)) =
      runsLength (before ++ rs) by
    rw [← Importer.passagesAfter_empty]
    exact h []
  induction rs with
  | nil =>
    intro before
    rw [List.append_nil]
    exact Importer.textsLength_passagesAfter_nil before
  | cons r rs ih =>
    intro before
    rw [List.map_cons, Importer.passagesAfter_cons _ (by simp), ih, Importer.runsAfter,
      List.append_assoc, List.singleton_append]

/-! ## Inlines -/

/-- Events that say nothing do not leak. -/
theorem keeping_leaking {past : List Event} {e : Event} (h : e.isText = false) :
    keeping leaking past e = [] := by
  simp [keeping, leaking, describes, h]

theorem keep_leaking_within (past : List Event) {first last : Event} (hf : first.isText = false)
    (hl : last.isText = false) (es : List Event) :
    keep leaking past (first :: es ++ [last]) = keep leaking (past ++ [first]) es := by
  rw [List.cons_append, keep_cons, keeping_leaking hf, keep_append, keep_singleton,
    keeping_leaking hl, List.append_nil, List.nil_append]

theorem Inline.runsList_append (around : List Markup) (is js : List Inline) :
    Inline.runsList around (is ++ js) = Inline.runsList around is ++ Inline.runsList around js := by
  induction is with
  | nil => rfl
  | cons i is ih => rw [List.cons_append, runsList, runsList, ih, List.append_assoc]

/-- Pieces that are runs. -/
def runPieces (around : List Markup) (is : List Inline) : List ListPiece :=
  (Inline.runsList around is).map .run

theorem runPieces_append (around : List Markup) (is js : List Inline) :
    runPieces around (is ++ js) = runPieces around is ++ runPieces around js := by
  rw [runPieces, Inline.runsList_append, List.map_append]
  rfl

theorem runPieces_styled (around : List Markup) (style : Style) (content : List Inline) :
    runPieces around [.styled style content] = runPieces (around ++ [style.markup]) content := by
  simp [runPieces, Inline.runsList, Inline.runs]

/-- What does not belong to a description stays. -/
theorem drops_undescribed {past : List Event} {around : List Markup} {i : Inline}
    (hb : i.bare (0 < imageDepth past) = [i]) (hl : keep leaking past i.events = []) :
    Drops (saidLength (keep leaking past i.events))
      (runPieces around (i.unframed (imageOpen past)))
      (runPieces around (Inline.unframedList (imageOpen past) (i.bare (0 < imageDepth past)))) := by
  rw [hl, hb, unframedList_singleton]
  exact Drops.refl _

/-- A code span or a break, which leaks if it belongs to a description. -/
theorem drops_leaf {past : List Event} {around : List Markup} {i : Inline} {e : Event} {r : Run}
    (he : i.events = [e]) (hsaid : e.said = r.text)
    (hbare : ∀ inside, i.bare inside = if inside then [] else [i])
    (hruns : runPieces around (i.unframed (imageOpen past)) = [.run r])
    (hleak : leaking past e = decide (0 < imageDepth past)) :
    Drops (saidLength (keep leaking past i.events))
      (runPieces around (i.unframed (imageOpen past)))
      (runPieces around (Inline.unframedList (imageOpen past) (i.bare (0 < imageDepth past)))) := by
  by_cases h : 0 < imageDepth past
  · rw [he, keep_singleton, keeping, hleak, decide_eq_true h, hruns, hbare]
    have hlength : saidLength [e] = r.text.length := by
      simp [saidLength, hsaid, String.length_toList]
    rw [if_pos rfl, if_pos rfl, hlength]
    exact .single r
  · apply drops_undescribed
    · rw [hbare, decide_eq_false h]
      rfl
    · rw [he, keep_singleton, keeping, hleak, decide_eq_false h]
      rfl

mutual

/-- Of the text that is left of an inline if images are taken out, its descriptions say what leaks
out of them. -/
theorem drops_inline (past : List Event) (around : List Markup) : (i : Inline) →
    Drops (saidLength (keep leaking past i.events))
      (runPieces around (i.unframed (imageOpen past)))
      (runPieces around (Inline.unframedList (imageOpen past) (i.bare (0 < imageDepth past))))
  | .text t => by
    cases h : imageOpen past with
    | false =>
      rw [← h]
      apply drops_leaf (r := ⟨t, around⟩) rfl rfl fun _ => rfl
      · rw [h]
        rfl
      · simp [leaking, describes, silent, Event.isText, h]
    | true =>
      have hsilent : keep leaking past [.text t] = [] := by
        simp [keep_singleton, keeping, leaking, silent, h]
      rw [Inline.events, hsilent, Inline.bare]
      split <;> exact .nil
  | .code t => drops_leaf (r := ⟨t, around ++ [⟨"code", .empty⟩]⟩) rfl rfl (fun _ => rfl)
      rfl (Bool.and_true _)
  | .softBreak => drops_leaf (r := ⟨" ", around⟩) rfl rfl (fun _ => rfl) rfl (Bool.and_true _)
  | .hardBreak => drops_leaf (r := ⟨"\n", around⟩) rfl rfl (fun _ => rfl) rfl (Bool.and_true _)
  | .ignored => .nil
  | .styled style content => by
    have hcontent := drops_inlineList (past ++ [.start style.startTag])
      (around ++ [style.markup]) content
    rw [imageOpen_concat past (by cases style <;> rfl),
      imageDepth_concat past (by cases style <;> rfl)] at hcontent
    rw [Inline.events, keep_leaking_within past rfl rfl, Inline.unframed, Inline.bare,
      unframedList_singleton, Inline.unframed, runPieces_styled, runPieces_styled]
    exact hcontent
  | .image url content => by
    have hcontent := drops_inlineList (past ++ [.start (.image url)]) around content
    rw [imageOpen_start, imageDepth_start, decide_eq_true (Nat.succ_pos _)] at hcontent
    rw [Inline.events, keep_leaking_within past rfl rfl, Inline.bare, unframedList_singleton]
    exact hcontent

theorem drops_inlineList (past : List Event) (around : List Markup) : (is : List Inline) →
    Drops (saidLength (keep leaking past (Inline.eventsList is)))
      (runPieces around (Inline.unframedList (imageOpen past) is))
      (runPieces around
        (Inline.unframedList (imageOpen past) (Inline.bareList (0 < imageDepth past) is)))
  | [] => .nil
  | i :: is => by
    have hrest := drops_inlineList (past ++ i.events) around is
    rw [imageOpen_inline, imageDepth_inline] at hrest
    rw [Inline.eventsList, keep_append, saidLength_append, Inline.unframedList, Inline.bareList,
      Inline.unframedList_append, objectsList_bare, runPieces_append, runPieces_append]
    exact (drops_inline past around i).append hrest

end

/-! ## Blocks -/

/-- No image is open, and none would be open if images were nested. -/
structure Clear (past : List Event) : Prop where
  closed : imageOpen past = false
  outside : Outside past

theorem Clear.concat {past : List Event} (h : Clear past) {e : Event} (he : e.marksImage = false) :
    Clear (past ++ [e]) :=
  ⟨(imageOpen_concat past he).trans h.closed, h.outside.concat he⟩

theorem drops_content {past : List Event} (h : Clear past) (around : List Markup)
    (is : List Inline) :
    Drops (saidLength (keep leaking past (Inline.eventsList is)))
      (runPieces around (is.flatMap (Inline.unframed false)))
      (runPieces around ((is.flatMap (Inline.bare false)).flatMap (Inline.unframed false))) := by
  have hall := drops_inlineList past around is
  have hdepth : imageDepth past = 0 := h.outside
  rw [h.closed, hdepth, decide_eq_false (Nat.lt_irrefl 0), unframedList_false, unframedList_false,
    bareList_eq_flatMap] at hall
  exact hall

theorem Clear.block {past : List Event} (h : Clear past) (b : Block) : Clear (past ++ b.events) :=
  ⟨(givesObjects_block b past h.closed).2, (keeps_bare.block b past h.outside).2⟩

theorem Clear.part {past : List Event} (h : Clear past) (p : ItemPart) : Clear (past ++ p.events) :=
  ⟨(givesObjects_part p past h.closed).2, (keeps_bare.part p past h.outside).2⟩

theorem Clear.item {past : List Event} (h : Clear past) (item : List ItemPart) :
    Clear (past ++ (.start .item :: ItemPart.eventsList item ++ [.finish .item])) :=
  ⟨((givesObjects_parts item).within rfl rfl (fun _ => rfl) (fun _ => rfl) past h.closed).2,
    (keeps_bare.within (keeps_bare.parts item) rfl rfl past h.outside).2⟩

theorem ItemPart.piecesList_append (ps qs : List ItemPart) :
    ItemPart.piecesList (ps ++ qs) = ItemPart.piecesList ps ++ ItemPart.piecesList qs := by
  induction ps with
  | nil => rfl
  | cons p ps ih => rw [List.cons_append, piecesList, piecesList, ih, List.append_assoc]

theorem ItemPart.piecesList_map_inline (is : List Inline) :
    ItemPart.piecesList (is.map .inline) = runPieces [] is := by
  induction is with
  | nil => rfl
  | cons i is ih =>
    rw [List.map_cons, piecesList, ih, runPieces, runPieces, Inline.runsList, List.map_append]
    rfl

mutual

theorem drops_block {past : List Event} (h : Clear past) : (b : Block) →
    Drops (saidLength (keep leaking past b.events)) (b.replaced (Inline.unframed false)).pieces
      ((b.replaced (Inline.bare false)).replaced (Inline.unframed false)).pieces
  | .paragraph content => by
    rw [Block.events, keep_leaking_within past rfl rfl]
    exact .keep .paragraph (drops_content (h.concat rfl) [] content)
  | .heading level content => by
    rw [Block.events, keep_leaking_within past rfl rfl]
    exact drops_content (h.concat rfl) [] content
  | .list start items => by
    rw [Block.events, keep_leaking_within past rfl rfl]
    exact .keep .boundary (drops_items (h.concat rfl) items)
  | .code info texts => by
    have hcode : keep leaking past (Block.code info texts).events = [] :=
      (tight_block (.code info texts) trivial past h.outside).1
    rw [hcode]
    exact .nil
  | .rule | .ignored => .nil
  | .other children => by
    rw [Block.events, keep_leaking_within past rfl rfl]
    exact drops_blocks (h.concat rfl) children

theorem drops_blocks {past : List Event} (h : Clear past) : (bs : List Block) →
    Drops (saidLength (keep leaking past (Block.eventsList bs)))
      (Block.piecesList (Block.replacedList (Inline.unframed false) bs))
      (Block.piecesList (Block.replacedList (Inline.unframed false)
        (Block.replacedList (Inline.bare false) bs)))
  | [] => .nil
  | b :: bs => by
    rw [Block.eventsList, keep_append, saidLength_append]
    exact (drops_block h b).append (drops_blocks (h.block b) bs)

theorem drops_part {past : List Event} (h : Clear past) : (p : ItemPart) →
    Drops (saidLength (keep leaking past p.events))
      (ItemPart.piecesList (p.replaced (Inline.unframed false)))
      (ItemPart.piecesList (ItemPart.replacedList (Inline.unframed false)
        (p.replaced (Inline.bare false))))
  | .inline i => by
    have hcontent := drops_content h [] [i]
    rw [Inline.eventsList, Inline.eventsList, List.append_nil, List.flatMap_singleton,
      List.flatMap_singleton] at hcontent
    rw [ItemPart.replaced, ItemPart.replaced, ItemPart.replacedList_map_inline,
      ItemPart.piecesList_map_inline, ItemPart.piecesList_map_inline]
    exact hcontent
  | .block b => (drops_block h b).append .nil

theorem drops_parts {past : List Event} (h : Clear past) : (ps : List ItemPart) →
    Drops (saidLength (keep leaking past (ItemPart.eventsList ps)))
      (ItemPart.piecesList (ItemPart.replacedList (Inline.unframed false) ps))
      (ItemPart.piecesList (ItemPart.replacedList (Inline.unframed false)
        (ItemPart.replacedList (Inline.bare false) ps)))
  | [] => .nil
  | p :: ps => by
    rw [ItemPart.eventsList, keep_append, saidLength_append, ItemPart.replacedList,
      ItemPart.piecesList_append, ItemPart.replacedList, ItemPart.replacedList_append,
      ItemPart.piecesList_append]
    exact (drops_part h p).append (drops_parts (h.part p) ps)

theorem drops_items {past : List Event} (h : Clear past) : (items : List (List ItemPart)) →
    Drops (saidLength (keep leaking past (ItemPart.eventsItems items)))
      (ItemPart.piecesItems (ItemPart.replacedItems (Inline.unframed false) items))
      (ItemPart.piecesItems (ItemPart.replacedItems (Inline.unframed false)
        (ItemPart.replacedItems (Inline.bare false) items)))
  | [] => .nil
  | item :: rest => by
    rw [ItemPart.eventsItems, keep_append, saidLength_append, keep_leaking_within past rfl rfl]
    exact .keep .boundary ((drops_parts (h.concat rfl) item).append
      (.keep .boundary (drops_items (h.item item) rest)))

end

/-! ## Documents -/

/-- The text of a section. -/
def Content.chars : Content → List StyledChar
  | .text _ chars => chars
  | .list _ items => items.flatten
  | .image _ | .card _ => []

/-- How many characters the texts of sections say. -/
def contentsLength (cs : List Content) : Nat := (cs.flatMap Content.chars).length

theorem contentsLength_append (cs ds : List Content) :
    contentsLength (cs ++ ds) = contentsLength cs + contentsLength ds := by
  simp [contentsLength]

theorem contentsLength_cons (c : Content) (cs : List Content) :
    contentsLength (c :: cs) = c.chars.length + contentsLength cs := by
  simp [contentsLength]

/-- Images and cards say nothing. -/
theorem contentsLength_of_isObject {bs : List Section} (h : ∀ b ∈ bs, b.isObject = true) :
    contentsLength (bs.map Section.content) = 0 := by
  induction bs with
  | nil => rfl
  | cons b bs ih =>
    obtain ⟨hb, hbs⟩ := List.forall_mem_cons.1 h
    have hrest := ih hbs
    cases b with
    | markup s => exact absurd hb Bool.false_ne_true
    | list s => exact absurd hb Bool.false_ne_true
    | image s =>
      rw [List.map_cons, contentsLength_cons, hrest]
      rfl
    | card c =>
      rw [List.map_cons, contentsLength_cons, hrest]
      rfl

theorem contentsLength_textContents (tagName : String) (is : List Inline) (around : List Markup) :
    contentsLength (textContents tagName (decodeRuns (Inline.runsList around is))
      (Inline.imagesList is)) = runsLength (Inline.runsList around is) := by
  rw [textContents, contentsLength_append, contentsLength_of_isObject (isObject_imagesList is),
    Nat.add_zero, runsLength]
  split
  · rename_i h
    rw [h]
    rfl
  · rw [contentsLength_cons]
    exact Nat.add_zero _

theorem contentsLength_list (start : Option Nat) (items : List (List ItemPart)) :
    contentsLength (Block.list start items).contents =
      textsLength (passages (ItemPart.piecesItems items)) := by
  rw [Block.contents, contentsLength_cons, contentsLength_of_isObject (isObject_heldItems items),
    Nat.add_zero, Content.chars, textsLength, List.flatMap_def]

theorem length_content {past : List Event} (h : Clear past) (is : List Inline) :
    runsLength (Inline.runsList [] ((is.flatMap (Inline.bare false)).flatMap
        (Inline.unframed false))) + saidLength (keep leaking past (Inline.eventsList is)) ≤
      runsLength (Inline.runsList [] (is.flatMap (Inline.unframed false))) := by
  rw [← textsLength_passages_runs, ← textsLength_passages_runs]
  exact (drops_content h [] is).length_passages

mutual

/-- Without descriptions, a block outside lists says less, by what leaks at least. -/
theorem length_block {past : List Event} (h : Clear past) : (b : Block) →
    contentsLength ((b.replaced (Inline.bare false)).replaced (Inline.unframed false)).contents +
        saidLength (keep leaking past b.events) ≤
      contentsLength (b.replaced (Inline.unframed false)).contents
  | .paragraph content => by
    rw [Block.events, keep_leaking_within past rfl rfl]
    simp only [Block.replaced, Block.contents, contentsLength_textContents]
    exact length_content (h.concat rfl) content
  | .heading level content => by
    rw [Block.events, keep_leaking_within past rfl rfl]
    simp only [Block.replaced, Block.contents, contentsLength_textContents]
    exact length_content (h.concat rfl) content
  | .list start items => by
    rw [Block.events, keep_leaking_within past rfl rfl, Block.replaced, Block.replaced,
      Block.replaced, contentsLength_list, contentsLength_list]
    exact (drops_items (h.concat rfl) items).length_passages
  | .code info texts => by
    have hcode : keep leaking past (Block.code info texts).events = [] :=
      (tight_block (.code info texts) trivial past h.outside).1
    rw [hcode]
    exact Nat.le_refl _
  | .rule | .ignored => Nat.le_refl _
  | .other children => by
    rw [Block.events, keep_leaking_within past rfl rfl]
    exact length_blocks (h.concat rfl) children

theorem length_blocks {past : List Event} (h : Clear past) : (bs : List Block) →
    contentsLength (Block.contentsList (Block.unframedList (Block.bareList bs))) +
        saidLength (keep leaking past (Block.eventsList bs)) ≤
      contentsLength (Block.contentsList (Block.unframedList bs))
  | [] => Nat.le_refl _
  | b :: bs => by
    have hb := length_block h b
    have hbs := length_blocks (h.block b) bs
    rw [Block.eventsList, keep_append, saidLength_append]
    change contentsLength (_ ++ Block.contentsList (Block.unframedList (Block.bareList bs))) + _ ≤
      contentsLength (_ ++ Block.contentsList (Block.unframedList bs))
    rw [contentsLength_append, contentsLength_append]
    omega

end

theorem saidLength_pos {events : List Event} (h : ∃ e ∈ events, e.said ≠ "") :
    0 < saidLength events := by
  obtain ⟨e, he, hsaid⟩ := h
  obtain ⟨as, bs, rfl⟩ := List.append_of_mem he
  have hlength : e.said.toList ≠ [] := by simpa using hsaid
  exact List.length_pos_iff.2 (by simp [hlength])

/-- A document says more than it does without descriptions if something leaks that is not empty. -/
theorem postOfEvents_ne_of_leak (bs : List Block)
    (h : ∃ e ∈ leaks (Block.eventsList bs), e.said ≠ "") :
    postOfEvents (withoutDescriptions (Block.eventsList bs)) ≠
      postOfEvents (Block.eventsList bs) := by
  intro hsame
  have hcontents : Block.contentsList (Block.unframedList (Block.bareList bs)) =
      Block.contentsList (Block.unframedList bs) := by
    rw [← contents_imageless, ← contents_imageless, ← withoutDescriptions_eventsList, hsame]
  have hclear : Clear [] := ⟨rfl, rfl⟩
  have hlength := length_blocks hclear bs
  have hleaks : 0 < saidLength (keep leaking [] (Block.eventsList bs)) := saidLength_pos h
  rw [hcontents] at hlength
  omega

/-- **What descriptions of images leave in a document.** Besides images, a document says what the
tree says if its images are taken out, and nothing but what leaks stays of their descriptions. So
descriptions can be deleted if nothing leaks out of them, and if anything leaks that is not empty,
the document is another one without it. -/
theorem postOfEvents_descriptions (bs : List Block) :
    (imageless (postOfEvents (Block.eventsList bs)).sections).map Section.content =
        Block.contentsList (Block.unframedList bs) ∧
      (leaks (Block.eventsList bs) = [] →
        postOfEvents (withoutDescriptions (Block.eventsList bs)) =
          postOfEvents (Block.eventsList bs)) ∧
      ((∃ e ∈ leaks (Block.eventsList bs), e.said ≠ "") →
        postOfEvents (withoutDescriptions (Block.eventsList bs)) ≠
          postOfEvents (Block.eventsList bs)) :=
  ⟨contents_imageless bs, postOfEvents_withoutDescriptions, postOfEvents_ne_of_leak bs⟩

/-- A paragraph with an image that is described by words in bold. -/
def boldDescription : List Block :=
  [.paragraph [.text "a", .image "x.png" [.text "b", .styled .strong [.text "c"]], .code "d"]]

/-- A paragraph with an image that is described by a word and a code span. -/
def codeDescription : List Block := [.paragraph [.image "x.png" [.text "a ", .code "b"]]]

theorem postOfEvents_descriptions_bold :
    leaks (Block.eventsList boldDescription) = [] ∧
      postOfEvents (withoutDescriptions (Block.eventsList boldDescription)) =
        postOfEvents (Block.eventsList boldDescription) ∧
      leaks (Block.eventsList codeDescription) = [.code "b"] ∧
      postOfEvents (withoutDescriptions (Block.eventsList codeDescription)) ≠
        postOfEvents (Block.eventsList codeDescription) := by
  have hdescribed : Block.DescribedList boldDescription := by
    simp [boldDescription, Block.DescribedList, Block.Described, Inline.DescribedList,
      Inline.Described, Inline.IsTextList, Inline.IsText]
  have hbold : leaks (Block.eventsList boldDescription) = [] := leaks_eventsList hdescribed
  have hcode : leaks (Block.eventsList codeDescription) = [.code "b"] := by decide +kernel
  have hleak : ∃ e ∈ leaks (Block.eventsList codeDescription), e.said ≠ "" := by
    rw [hcode]
    decide
  exact ⟨hbold, (postOfEvents_descriptions boldDescription).2.1 hbold, hcode,
    (postOfEvents_descriptions codeDescription).2.2 hleak⟩

/-- Not all descriptions can be deleted. -/
theorem not_postOfEvents_withoutDescriptions :
    ¬∀ bs, postOfEvents (withoutDescriptions (Block.eventsList bs)) =
      postOfEvents (Block.eventsList bs) := by
  intro h
  have hcode : postOfEvents (withoutDescriptions (Block.eventsList codeDescription)) ≠
      postOfEvents (Block.eventsList codeDescription) := by decide +kernel
  exact hcode (h codeDescription)

/-- Code spans, breaks and what follows an inner image leak. -/
example : leaks (Block.eventsList [.paragraph [.image "x.png" [.text "a", .code "b", .softBreak,
    .image "y.png" [.text "c"], .text "d", .hardBreak]]]) =
    [.code "b", .softBreak, .text "d", .hardBreak] := by decide +kernel

end RichText.Markdown

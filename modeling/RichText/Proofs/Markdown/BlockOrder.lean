import RichText.Proofs.Markdown.Streams

/-!
# Images and cards keep their order

Images, code blocks and rules become sections of their own, here called *objects*. An object may
have to wait until the text around it is complete, while others go to the document at once. Still
the objects of the document are those of the events (`objectsOf`), each once and in the same order.

**The line (`Importer.Lines`).** The objects that are in the document stand in line before those
that wait, and something waits only while a block or a list is open. An object that does not have
to wait therefore overtakes nothing. Every part of a step keeps the line or puts one object at its
end (`Lines.step`).

**Trees (`GivesObjects`).** The events of a tree give what the tree holds (`Block.objects`),
whatever the descriptions of its images are.

**Theorem (`postOfEvents_objects`).** The objects of the document are those of the events, for every
stream of events, nested or not, and those of the tree where the events are nested.
-/

namespace RichText

/-- An image or a card. -/
def Section.isObject : Section → Bool
  | .image _ | .card _ => true
  | .markup _ | .list _ => false

/-- The images and cards among sections. -/
def objects (sections : List Section) : List Section := sections.filter Section.isObject

@[simp] theorem objects_append (bs cs : List Section) :
    objects (bs ++ cs) = objects bs ++ objects cs :=
  List.filter_append bs cs

@[simp] theorem objects_nil : objects [] = [] := rfl

theorem objects_singleton {b : Section} (h : b.isObject = true) : objects [b] = [b] := by
  simp [objects, h]

namespace Markdown

/-- The object that an event gives after the events `past`: an image where one starts, the card of a
rule, and the card of a code block, with its text and its language, where an open one ends. -/
def objectOf (past : List Event) : Event → List Section
  | .start (.image url) => [.image ⟨url⟩]
  | .rule => [.card ⟨"hr", .obj []⟩]
  | .finish .codeBlock =>
    ((openCode? past).map fun (language, code) =>
      .card ⟨"code", .obj [("code", .str code), ("language", .str language)]⟩).toList
  | _ => []

/-- The objects that events give, in the order of the events. -/
def objectsOf (events : List Event) : List Section := gives objectOf [] events

/-! ## The objects of a tree -/

mutual

/-- The images in an inline, those in descriptions of images included. -/
def Inline.objects : Inline → List Section
  | .text _ | .code _ | .softBreak | .hardBreak | .ignored => []
  | .styled _ content => Inline.objectsList content
  | .image url content => .image ⟨url⟩ :: Inline.objectsList content

def Inline.objectsList : List Inline → List Section
  | [] => []
  | i :: rest => i.objects ++ Inline.objectsList rest

end

mutual

/-- The images and cards in a block. -/
def Block.objects : Block → List Section
  | .paragraph content | .heading _ content => Inline.objectsList content
  | .list _ items => ItemPart.objectsItems items
  | .code info texts => [.card (codeBlockCard info texts)]
  | .rule => [.card ⟨"hr", .obj []⟩]
  | .other children => Block.objectsList children
  | .ignored => []

def Block.objectsList : List Block → List Section
  | [] => []
  | b :: rest => b.objects ++ Block.objectsList rest

def ItemPart.objects : ItemPart → List Section
  | .inline i => i.objects
  | .block b => b.objects

def ItemPart.objectsList : List ItemPart → List Section
  | [] => []
  | p :: rest => p.objects ++ ItemPart.objectsList rest

def ItemPart.objectsItems : List (List ItemPart) → List Section
  | [] => []
  | item :: rest => ItemPart.objectsList item ++ ItemPart.objectsItems rest

end

mutual

theorem isObject_images : (i : Inline) → ∀ b ∈ i.images, b.isObject = true
  | .styled _ content => isObject_imagesList content
  | .image _ _ => by simp [Inline.images, Section.isObject]
  | .text _ | .code _ | .softBreak | .hardBreak | .ignored => by simp [Inline.images]

theorem isObject_imagesList :
    (is : List Inline) → ∀ b ∈ Inline.imagesList is, b.isObject = true
  | [] => by simp [Inline.imagesList]
  | i :: is => List.forall_mem_append.2 ⟨isObject_images i, isObject_imagesList is⟩

end

mutual

/-- What is held back are objects. -/
theorem isObject_held : (b : Block) → ∀ c ∈ b.held, c.isObject = true
  | .paragraph content | .heading _ content => isObject_imagesList content
  | .list _ items => isObject_heldItems items
  | .code _ _ | .rule => by simp [Block.held, Section.isObject]
  | .other children => isObject_heldList children
  | .ignored => by simp [Block.held]

theorem isObject_heldList : (bs : List Block) → ∀ c ∈ Block.heldList bs, c.isObject = true
  | [] => by simp [Block.heldList]
  | b :: bs => List.forall_mem_append.2 ⟨isObject_held b, isObject_heldList bs⟩

theorem isObject_partHeld : (p : ItemPart) → ∀ c ∈ p.held, c.isObject = true
  | .inline i => isObject_images i
  | .block b => isObject_held b

theorem isObject_partsHeld :
    (ps : List ItemPart) → ∀ c ∈ ItemPart.heldList ps, c.isObject = true
  | [] => by simp [ItemPart.heldList]
  | p :: ps => List.forall_mem_append.2 ⟨isObject_partHeld p, isObject_partsHeld ps⟩

theorem isObject_heldItems :
    (items : List (List ItemPart)) → ∀ c ∈ ItemPart.heldItems items, c.isObject = true
  | [] => by simp [ItemPart.heldItems]
  | item :: rest => List.forall_mem_append.2 ⟨isObject_partsHeld item, isObject_heldItems rest⟩

end

/-- Outside images, the events give the objects `bs`, and leave no image open. -/
abbrev GivesObjects (events : List Event) (bs : List Section) : Prop :=
  Gives objectOf (imageOpen · = false) events bs

/-- An event that neither starts nor ends an image. -/
theorem givesObjects_event {e : Event} {bs : List Section} (hi : e.marksImage = false)
    (he : ∀ past, objectOf past e = bs) : GivesObjects [e] bs :=
  gives_event (fun past _ => he past) fun past h => by rwa [imageOpen_concat past hi]

theorem GivesObjects.within {es : List Event} {bs : List Section} (h : GivesObjects es bs)
    {first last : Event} (hf : first.marksImage = false) (hl : last.marksImage = false)
    (hfirst : ∀ past, objectOf past first = []) (hlast : ∀ past, objectOf past last = []) :
    GivesObjects (first :: es ++ [last]) bs := by
  have hall := Gives.enclosed h (givesObjects_event hf hfirst) (givesObjects_event hl hlast)
  rwa [List.nil_append, List.append_nil] at hall

mutual

/-- In an inline only images give anything, also inside other images. -/
theorem gives_inline (past : List Event) : (i : Inline) → gives objectOf past i.events = i.objects
  | .text _ | .code _ | .softBreak | .hardBreak | .ignored => rfl
  | .styled style content => by
    rw [Inline.events, List.cons_append, gives, gives_concat, gives_inlineList _ content]
    cases style <;> exact List.append_nil _
  | .image url content => by
    rw [Inline.events, List.cons_append, gives, gives_concat, gives_inlineList _ content]
    exact congrArg (Section.image ⟨url⟩ :: ·) (List.append_nil _)

theorem gives_inlineList (past : List Event) :
    (is : List Inline) → gives objectOf past (Inline.eventsList is) = Inline.objectsList is
  | [] => rfl
  | i :: is => by
    rw [Inline.eventsList, gives_append, gives_inline past i, gives_inlineList _ is]
    rfl

end

mutual

/-- An image is still open after an inline if one was open before and none ends in the inline. -/
theorem imageOpen_inline (past : List Event) :
    (i : Inline) → imageOpen (past ++ i.events) = (imageOpen past && i.objects.isEmpty)
  | .text _ | .code _ | .softBreak | .hardBreak | .ignored => by
    rw [Inline.events, imageOpen_concat past rfl]
    exact (Bool.and_true _).symm
  | .styled style content => by
    have hcontent := imageOpen_inlineList (past ++ [.start style.startTag]) content
    rw [imageOpen_concat past (by cases style <;> rfl), List.append_assoc] at hcontent
    rw [Inline.events, ← List.append_assoc, imageOpen_concat _ (by cases style <;> rfl)]
    exact hcontent
  | .image url content => by
    rw [Inline.events, ← List.append_assoc, imageOpen_finish]
    exact (Bool.and_false _).symm

theorem imageOpen_inlineList (past : List Event) :
    (is : List Inline) → imageOpen (past ++ Inline.eventsList is) =
      (imageOpen past && (Inline.objectsList is).isEmpty)
  | [] => by simp [Inline.eventsList, Inline.objectsList]
  | i :: is => by
    rw [Inline.eventsList, ← List.append_assoc, imageOpen_inlineList _ is, imageOpen_inline _ i,
      Inline.objectsList, Bool.and_assoc]
    cases i.objects <;> simp

end

theorem givesObjects_inline (i : Inline) : GivesObjects i.events i.objects :=
  fun past (h : imageOpen past = false) => ⟨gives_inline past i, by simp [imageOpen_inline, h]⟩

theorem givesObjects_inlines (is : List Inline) :
    GivesObjects (Inline.eventsList is) (Inline.objectsList is) :=
  fun past (h : imageOpen past = false) =>
    ⟨gives_inlineList past is, by simp [imageOpen_inlineList, h]⟩

/-- The code block `texts` is open, and no image. -/
theorem gives_texts {past : List Event} {c : String × String} (hcode : openCode? past = some c)
    (h : imageOpen past = false) (texts : List String) :
    gives objectOf past (texts.map .text) = [] ∧
      openCode? (past ++ texts.map .text) = some (c.1, c.2 ++ String.join texts) ∧
      imageOpen (past ++ texts.map .text) = false := by
  induction texts generalizing past c with
  | nil => simp [gives, hcode, h]
  | cons t texts ih =>
    have hheard : heard past (.text t) = [t] := by simp [heard, h]
    have hnext : openCode? (past ++ [.text t]) = some (c.1, c.2 ++ t) := by
      simp [openCode?_concat past (e := .text t) rfl, hcode, hheard]
    have hclosed : imageOpen (past ++ [.text t]) = false := by rwa [imageOpen_concat past rfl]
    obtain ⟨hnone, hopen, himage⟩ := ih hnext hclosed
    rw [List.append_assoc] at hopen himage
    refine ⟨by rw [List.map_cons, gives, hnone]; rfl, ?_, himage⟩
    rw [List.map_cons, String.join_cons, ← String.append_assoc]
    exact hopen

/-- A code block gives one card with all its text. -/
theorem givesObjects_code (info : Option String) (texts : List String) :
    GivesObjects (Block.code info texts).events [.card (codeBlockCard info texts)] := by
  intro past h
  have hstart : imageOpen (past ++ [.start (.codeBlock info)]) = false := by
    rwa [imageOpen_concat past rfl]
  obtain ⟨hnone, hopen, himage⟩ := gives_texts (openCode?_start past info) hstart texts
  rw [Block.events, List.cons_append, gives, gives_concat, hnone, objectOf, hopen]
  rw [List.append_assoc] at himage
  refine ⟨by simp [objectOf, codeBlockCard], ?_⟩
  rw [← imageOpen_concat _ (e := .finish .codeBlock) rfl] at himage
  simpa using himage

mutual

theorem givesObjects_block : (b : Block) → GivesObjects b.events b.objects
  | .paragraph content | .heading _ content =>
    (givesObjects_inlines content).within rfl rfl (fun _ => rfl) fun _ => rfl
  | .list _ items => (givesObjects_items items).within rfl rfl (fun _ => rfl) fun _ => rfl
  | .code info texts => givesObjects_code info texts
  | .rule => givesObjects_event rfl fun _ => rfl
  | .other children => (givesObjects_blocks children).within rfl rfl (fun _ => rfl) fun _ => rfl
  | .ignored => givesObjects_event rfl fun _ => rfl

theorem givesObjects_blocks : (bs : List Block) →
    GivesObjects (Block.eventsList bs) (Block.objectsList bs)
  | [] => gives_nil
  | b :: bs => (givesObjects_block b).append (givesObjects_blocks bs)

theorem givesObjects_part : (p : ItemPart) → GivesObjects p.events p.objects
  | .inline i => givesObjects_inline i
  | .block b => givesObjects_block b

theorem givesObjects_parts : (ps : List ItemPart) →
    GivesObjects (ItemPart.eventsList ps) (ItemPart.objectsList ps)
  | [] => gives_nil
  | p :: ps => (givesObjects_part p).append (givesObjects_parts ps)

theorem givesObjects_items : (items : List (List ItemPart)) →
    GivesObjects (ItemPart.eventsItems items) (ItemPart.objectsItems items)
  | [] => gives_nil
  | item :: rest =>
    Gives.append ((givesObjects_parts item).within rfl rfl (fun _ => rfl) fun _ => rfl)
      (givesObjects_items rest)

end

namespace Importer

variable {s : Importer} {bs : List Section}

/-! ## The line -/

@[simp] theorem objects_blockSections : objects s.blockSections = [] := by
  unfold blockSections
  split
  · dsimp only
    split <;> rfl
  · rfl

@[simp] theorem objects_listSections : objects s.listSections = [] := by
  unfold listSections
  split <;> rfl

/-- The objects so far: those in the document and then those that wait. -/
def line (s : Importer) : List Section := objects s.sections ++ objects s.pending

theorem line_flushBlock : s.flushBlock.line = s.line := by
  simp [line, flushBlock]

theorem line_flushList : s.flushList.line = s.line := by
  simp [line, flushList]

theorem line_flushItem : s.flushItem.line = s.line := by
  unfold flushItem
  split <;> rfl

/-- The objects so far are `bs`, and they wait only while something is open. -/
structure Lines (s : Importer) (bs : List Section) : Prop where
  line : s.line = bs
  waits : s.pending ≠ [] → s.blockTag.isSome ∨ 0 < s.listDepth

theorem lines_empty : ({} : Importer).Lines [] := ⟨rfl, fun h => absurd rfl h⟩

/-- No object is added. -/
theorem Lines.append_nil (h : s.Lines bs) : s.Lines (bs ++ []) := (List.append_nil bs).symm ▸ h

theorem Lines.pushBlock (h : s.Lines bs) {b : Section} (hb : b.isObject = true) :
    (s.pushBlock b).Lines (bs ++ [b]) := by
  obtain ⟨rfl, hwaits⟩ := h
  unfold Importer.pushBlock
  split
  · rename_i hopen
    refine ⟨?_, fun _ => by simpa using hopen⟩
    simp [Importer.line, objects_singleton hb]
  · rename_i hopen
    -- nothing is open, so that nothing waits
    have hnone : s.pending = [] := by
      by_contra hsome
      exact hopen (by simpa using hwaits hsome)
    refine ⟨?_, fun hsome => absurd hnone hsome⟩
    simp [Importer.line, objects_singleton hb, hnone]

theorem Lines.flushBlock (h : s.Lines bs) : s.flushBlock.Lines bs :=
  ⟨line_flushBlock.trans h.line, fun hsome => absurd rfl hsome⟩

theorem Lines.flushItem (h : s.Lines bs) : s.flushItem.Lines bs := by
  refine ⟨line_flushItem.trans h.line, ?_⟩
  unfold Importer.flushItem
  split
  · exact h.waits
  · exact h.waits

/-! ## Steps -/

theorem Lines.startList (h : s.Lines bs) (start : Option Nat) : (s.startList start).Lines bs := by
  have hdeeper : Lines { s with listDepth := s.listDepth + 1 } bs :=
    ⟨h.line, fun _ => .inr (Nat.succ_pos _)⟩
  unfold Importer.startList
  dsimp only
  split
  · exact ⟨hdeeper.line, hdeeper.waits⟩
  · exact hdeeper.flushItem

theorem Lines.startParagraph (h : s.Lines bs) : s.startParagraph.Lines bs := by
  unfold Importer.startParagraph
  split
  · exact ⟨h.line, fun _ => .inl rfl⟩
  · split
    · exact h
    · exact ⟨h.line, h.waits⟩

theorem Lines.startHeading (h : s.Lines bs) (level : HeadingLevel) :
    (s.startHeading level).Lines bs := by
  unfold Importer.startHeading
  split
  · exact ⟨h.line, fun _ => .inl rfl⟩
  · exact h

theorem Lines.start (h : s.Lines bs) (past : List Event) (tag : StartTag) :
    (s.start tag).Lines (bs ++ objectOf past (.start tag)) := by
  cases tag with
  | image url =>
    have hs : Lines { s with inImage := true } bs := ⟨h.line, h.waits⟩
    exact hs.pushBlock rfl
  | paragraph => exact h.startParagraph.append_nil
  | heading level => exact (h.startHeading level).append_nil
  | list start => exact (h.startList start).append_nil
  | item => exact h.flushItem.append_nil
  | strong | emphasis | strikethrough | link _ | codeBlock _ | other =>
    exact Lines.append_nil ⟨h.line, h.waits⟩

theorem Lines.finishBlock (h : s.Lines bs) : s.finishBlock.Lines bs := by
  unfold Importer.finishBlock
  split
  · exact h.flushBlock
  · exact h

/-- At the end of a list another one is still open, or nothing waits any longer. -/
theorem Lines.finishList (h : s.Lines bs) : s.finishList.Lines bs := by
  unfold Importer.finishList
  dsimp only
  split
  · refine ⟨?_, fun hsome => absurd rfl hsome⟩
    rw [line_flushList, line_flushItem]
    exact h.line
  · rename_i hdepth
    exact ⟨h.line, fun _ => .inr (Nat.pos_of_ne_zero hdepth)⟩

theorem Lines.finishCode (h : s.Lines bs) {past : List Event} (hcode : s.code = openCode? past) :
    s.finishCode.Lines (bs ++ objectOf past (.finish .codeBlock)) := by
  rw [objectOf, ← hcode]
  unfold Importer.finishCode
  split
  · rename_i language code hs
    have hclosed : Lines { s with code := none } bs := ⟨h.line, h.waits⟩
    rw [hs]
    exact hclosed.pushBlock rfl
  · rename_i hs
    rw [hs, Option.map_none, Option.toList_none, List.append_nil]
    exact h

theorem Lines.finish (h : s.Lines bs) {past : List Event} (hcode : s.code = openCode? past)
    (tag : EndTag) : (s.finish tag).Lines (bs ++ objectOf past (.finish tag)) := by
  cases tag with
  | codeBlock => exact h.finishCode hcode
  | paragraph | heading => exact h.finishBlock.append_nil
  | list => exact h.finishList.append_nil
  | item => exact h.flushItem.append_nil
  | strong | emphasis | strikethrough | link | image | other =>
    exact Lines.append_nil ⟨h.line, h.waits⟩

theorem Lines.pushText (h : s.Lines bs) (t : String) : (s.pushText t).Lines bs := by
  unfold Importer.pushText
  split
  · exact h
  · split <;> exact ⟨h.line, h.waits⟩

/-- Every event puts the object that it gives at the end of the line. -/
theorem Lines.step (h : s.Lines bs) {past : List Event} (hcode : s.code = openCode? past)
    (e : Event) : (s.step e).Lines (bs ++ objectOf past e) := by
  cases e with
  | start tag => exact h.start past tag
  | finish tag => exact h.finish hcode tag
  | rule => exact h.pushBlock rfl
  | text t => exact (h.pushText t).append_nil
  | code _ | softBreak | hardBreak | other => exact Lines.append_nil ⟨h.line, h.waits⟩

/-- After any events the line holds the objects that they give. -/
theorem lines_run (events : List Event) :
    (({} : Importer).run events).Lines (objectsOf events) := by
  induction events using List.reverseRecOn with
  | nil => exact lines_empty
  | append_singleton past e ih =>
    have hcode := (Prod.mk.inj (context_run past)).2
    rw [run_append, objectsOf, gives_concat]
    exact ih.step hcode e

end Importer

theorem objects_eq_objectsOf (events : List Event) :
    objects (postOfEvents events).sections = objectsOf events := by
  set s := ({} : Importer).run events
  have hs : s.Lines (objectsOf events) := Importer.lines_run events
  calc objects (postOfEvents events).sections
      = s.flushBlock.flushList.line := (List.append_nil _).symm
    _ = s.line := by rw [Importer.line_flushList, Importer.line_flushBlock]
    _ = objectsOf events := hs.line

theorem objectsOf_eventsList (bs : List Block) :
    objectsOf (Block.eventsList bs) = Block.objectsList bs :=
  (givesObjects_blocks bs [] rfl).1

/-- **Images and cards appear once and in order.** For every stream of events, nested or not, the
images and cards of the document are, in order, the objects that the events give. If the events are
those of a tree, they give the images, code blocks and rules of the tree in order. -/
theorem postOfEvents_objects :
    (∀ events, objects (postOfEvents events).sections = objectsOf events) ∧
      ∀ bs, objectsOf (Block.eventsList bs) = Block.objectsList bs :=
  ⟨objects_eq_objectsOf, objectsOf_eventsList⟩

/-- Events that are not nested: what is heard of a code block depends on the image over it. -/
example : objectsOf [.start (.image "a"), .start (.codeBlock none), .text "x", .finish .image,
    .text "y", .rule, .finish .codeBlock, .finish .codeBlock] =
    [.image ⟨"a"⟩, .card ⟨"hr", .obj []⟩,
      .card ⟨"code", .obj [("code", .str "y"), ("language", .str "")]⟩] := by decide

/-- A list with a code block, a rule and an image with another one in its description, and then a
code block of its own. -/
def listing : List Block :=
  [.list none [[.inline (.text "A"), .block (.code (some "rust") ["x", "\n"]), .block .rule,
      .inline (.image "a.png" [.image "b.png" []])]],
    .code none ["y"]]

/-- The images and cards of the listing. -/
def listingObjects : List Section :=
  [.card ⟨"code", .obj [("code", .str "x\n"), ("language", .str "rust")]⟩,
    .card ⟨"hr", .obj []⟩, .image ⟨"a.png"⟩, .image ⟨"b.png"⟩,
    .card ⟨"code", .obj [("code", .str "y"), ("language", .str "")]⟩]

theorem postOfEvents_objects_listing :
    Block.objectsList listing = listingObjects ∧
      objects (postOfEvents (Block.eventsList listing)).sections = listingObjects := by
  have hobjects : Block.objectsList listing = listingObjects := by decide +kernel
  obtain ⟨hpost, htree⟩ := postOfEvents_objects
  exact ⟨hobjects, (hpost _).trans ((htree listing).trans hobjects)⟩

end Markdown
end RichText

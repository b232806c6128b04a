import RichText.Proofs.Markdown.BlockOrder

/-!
# What becomes of the descriptions of images

The description of an image is to be no text of the document. The importer keeps out less than that:
in an open image it drops texts, but no code spans and no breaks, and at the end of an image inside
another it takes the outer one to have ended too.

* `Importer.run_delete`: texts in open images (`silent`) leave no trace, so descriptions can be
  deleted where nothing else is in them (`postOfEvents_withoutDescriptions`).
* `Importer.dropImages_run`: all other events count as if the images were not there
  (`withoutImages`), so that a code span, a break, or a text after an inner image becomes text of
  the document.
* `leaks_eventsList`: nothing leaks if the descriptions are formatted text.
-/

namespace RichText

/-- An image that stands as a section. -/
def Section.isImage : Section → Bool
  | .image _ => true
  | .markup _ | .list _ | .card _ => false

/-- The sections that are no images. -/
def imageless (bs : List Section) : List Section := bs.filter fun b => !b.isImage

@[simp] theorem imageless_nil : imageless [] = [] := rfl

@[simp] theorem imageless_append (bs cs : List Section) :
    imageless (bs ++ cs) = imageless bs ++ imageless cs :=
  List.filter_append bs cs

namespace Markdown

/-! ## Streams without descriptions -/

/-- The event, if it satisfies `p` in view of the events before it. -/
def keeping (p : List Event → Event → Bool) (past : List Event) (e : Event) : List Event :=
  if p past e then [e] else []

/-- The events that satisfy `p` in view of the events before them. -/
def keep (p : List Event → Event → Bool) (past events : List Event) : List Event :=
  gives (keeping p) past events

/-- A text in an open image. -/
def silent (past : List Event) : Event → Bool
  | .text _ => imageOpen past
  | _ => false

/-- Neither a text in an open image, nor the start or end of an image. -/
def imageFree (past : List Event) (e : Event) : Bool := !silent past e && !e.marksImage

/-- The events without the texts in open images, and without the starts and ends of images. -/
def withoutImages (events : List Event) : List Event := keep imageFree [] events

/-- Text, a code span or a break. -/
def Event.isText : Event → Bool
  | .text _ | .code _ | .softBreak | .hardBreak => true
  | _ => false

/-- How many images are open, where they are nested. -/
def imageDepth (past : List Event) : Nat :=
  past.foldl (fun
    | depth, .start (.image _) => depth + 1
    | depth, .finish .image => depth - 1
    | depth, _ => depth) 0

/-- A text, code span or break inside an image. -/
def describes (past : List Event) (e : Event) : Bool := e.isText && 0 < imageDepth past

/-- The events without the texts, code spans and breaks inside images. -/
def withoutDescriptions (events : List Event) : List Event :=
  keep (fun past e => !describes past e) [] events

/-- A text, code span or break inside an image that is not silent. -/
def leaking (past : List Event) (e : Event) : Bool := describes past e && !silent past e

/-- The events that leak out of descriptions of images. -/
def leaks (events : List Event) : List Event := keep leaking [] events

theorem keep_cons (p : List Event → Event → Bool) (past : List Event) (e : Event)
    (events : List Event) :
    keep p past (e :: events) = keeping p past e ++ keep p (past ++ [e]) events := rfl

theorem keep_singleton (p : List Event → Event → Bool) (past : List Event) (e : Event) :
    keep p past [e] = keeping p past e := List.append_nil _

theorem keep_append (p : List Event → Event → Bool) (past es fs : List Event) :
    keep p past (es ++ fs) = keep p past es ++ keep p (past ++ es) fs := gives_append _ past es fs

namespace Importer

variable {s : Importer} {past : List Event}

/-! ## Silent texts -/

theorem step_of_silent (h : s.context = contextAfter past) {e : Event} (he : silent past e = true) :
    s.step e = s := by
  have hopen : s.inImage = imageOpen past := (Prod.mk.inj h).1
  cases e with
  | text t => exact if_pos (hopen.trans he)
  | _ => cases he

/-- Events may be deleted if those that are not silent stay. -/
theorem run_delete {p : List Event → Event → Bool} (h : s.context = contextAfter past)
    (events : List Event) (hp : keep (fun past e => p past e && !silent past e) past events = []) :
    s.run (keep (fun past e => !p past e) past events) = s.run events := by
  induction events generalizing s past with
  | nil => rfl
  | cons e events ih =>
    rw [keep_cons, List.append_eq_nil_iff] at hp
    have hnext := ih (context_step h e) hp.2
    rw [keep_cons, run_cons]
    cases he : p past e with
    | true =>
      have hsilent : silent past e = true := by simpa [keeping, he] using hp.1
      rw [step_of_silent h hsilent] at hnext ⊢
      rw [keeping, he]
      exact hnext
    | false =>
      rw [keeping, he]
      exact hnext

/-- Descriptions in which nothing leaks leave no trace. -/
theorem run_withoutDescriptions {events : List Event} (h : leaks events = []) :
    ({} : Importer).run (withoutDescriptions events) = ({} : Importer).run events :=
  run_delete rfl events h

/-! ## Images taken out -/

/-- The state without its images, as if there had been none. -/
def dropImages (s : Importer) : Importer :=
  { s with sections := imageless s.sections, pending := imageless s.pending, inImage := false }

@[simp] theorem imageless_blockSections : imageless s.blockSections = s.blockSections := by
  unfold blockSections
  split
  · dsimp only
    split <;> rfl
  · rfl

@[simp] theorem imageless_listSections : imageless s.listSections = s.listSections := by
  unfold listSections
  split <;> rfl

theorem dropImages_pushImage (src : ImageSection) :
    (s.pushBlock (.image src)).dropImages = s.dropImages := by
  unfold pushBlock
  split <;> simp [dropImages, imageless, Section.isImage]

theorem dropImages_pushBlock {b : Section} (hb : b.isImage = false) :
    (s.pushBlock b).dropImages = s.dropImages.pushBlock b := by
  have hkeep : imageless [b] = [b] := by simp [imageless, hb]
  unfold pushBlock
  rw [apply_ite dropImages]
  refine ite_congr rfl (fun _ => ?_) fun _ => ?_
  · simp [dropImages, hkeep]
  · simp [dropImages, hkeep]

theorem dropImages_flushBlock : s.flushBlock.dropImages = s.dropImages.flushBlock := by
  have hsections : s.dropImages.blockSections = s.blockSections := rfl
  rw [flushBlock, flushBlock, hsections]
  simp [dropImages]

theorem dropImages_flushList : s.flushList.dropImages = s.dropImages.flushList := by
  have hsections : s.dropImages.listSections = s.listSections := rfl
  rw [flushList, flushList, hsections]
  simp [dropImages]

theorem dropImages_flushItem : s.flushItem.dropImages = s.dropImages.flushItem := by
  unfold flushItem
  rw [apply_ite dropImages]
  rfl

theorem dropImages_startList (start : Option Nat) :
    (s.startList start).dropImages = s.dropImages.startList start := by
  unfold startList
  dsimp only
  rw [apply_ite dropImages]
  exact ite_congr rfl (fun _ => rfl) fun _ => dropImages_flushItem

theorem dropImages_startParagraph :
    s.startParagraph.dropImages = s.dropImages.startParagraph := by
  unfold startParagraph
  rw [apply_ite dropImages, apply_ite dropImages]
  rfl

theorem dropImages_startHeading (level : HeadingLevel) :
    (s.startHeading level).dropImages = s.dropImages.startHeading level := by
  unfold startHeading
  rw [apply_ite dropImages]
  rfl

theorem dropImages_finishList : s.finishList.dropImages = s.dropImages.finishList := by
  unfold finishList
  dsimp only
  rw [apply_ite dropImages]
  refine ite_congr rfl (fun _ => ?_) fun _ => rfl
  rw [dropImages_flushList, dropImages_flushItem]
  rfl

theorem dropImages_finishBlock : s.finishBlock.dropImages = s.dropImages.finishBlock := by
  unfold finishBlock
  rw [apply_ite dropImages]
  exact ite_congr rfl (fun _ => dropImages_flushBlock) fun _ => rfl

theorem dropImages_finishCode : s.finishCode.dropImages = s.dropImages.finishCode := by
  have hcode : s.dropImages.code = s.code := rfl
  unfold finishCode
  rw [hcode]
  cases s.code with
  | none => rfl
  | some c => exact dropImages_pushBlock rfl

theorem dropImages_start {tag : StartTag} (h : (Event.start tag).marksImage = false) :
    (s.start tag).dropImages = s.dropImages.start tag := by
  cases tag with
  | image url => cases h
  | paragraph => exact dropImages_startParagraph
  | heading level => exact dropImages_startHeading level
  | list start => exact dropImages_startList start
  | item => exact dropImages_flushItem
  | strong | emphasis | strikethrough | link _ | codeBlock _ | other => rfl

theorem dropImages_finish {tag : EndTag} (h : (Event.finish tag).marksImage = false) :
    (s.finish tag).dropImages = s.dropImages.finish tag := by
  cases tag with
  | image => cases h
  | paragraph | heading => exact dropImages_finishBlock
  | list => exact dropImages_finishList
  | item => exact dropImages_flushItem
  | codeBlock => exact dropImages_finishCode
  | strong | emphasis | strikethrough | link | other => rfl

/-- A text that is heard counts as if there were no images. -/
theorem dropImages_pushText (h : s.inImage = false) (t : String) :
    (s.pushText t).dropImages = s.dropImages.pushText t := by
  have hopen : s.dropImages.inImage = s.inImage := h.symm
  have hcode : s.dropImages.code = s.code := rfl
  unfold pushText
  rw [hopen, h, hcode]
  cases s.code <;> rfl

/-- The start and the end of an image are nothing but the image. -/
theorem dropImages_mark {e : Event} (h : e.marksImage = true) :
    (s.step e).dropImages = s.dropImages := by
  cases e with
  | start tag =>
    cases tag with
    | image url => exact dropImages_pushImage ⟨url⟩
    | _ => cases h
  | finish tag =>
    cases tag with
    | image => rfl
    | _ => cases h
  | _ => cases h

theorem dropImages_step (hs : s.context = contextAfter past) {e : Event}
    (he : silent past e = false) (h : e.marksImage = false) :
    (s.step e).dropImages = s.dropImages.step e := by
  cases e with
  | start tag => exact dropImages_start h
  | finish tag => exact dropImages_finish h
  | text t => exact dropImages_pushText ((Prod.mk.inj hs).1.trans he) t
  | rule => exact dropImages_pushBlock rfl
  | code _ | softBreak | hardBreak | other => rfl

theorem dropImages_run_keep (hs : s.context = contextAfter past) (events : List Event) :
    (s.run events).dropImages = s.dropImages.run (keep imageFree past events) := by
  induction events generalizing s past with
  | nil => rfl
  | cons e events ih =>
    rw [run_cons, ih (context_step hs e), keep_cons, keeping, imageFree]
    cases he : silent past e with
    | true => rw [step_of_silent hs he]; rfl
    | false =>
      cases hm : e.marksImage with
      | true => rw [dropImages_mark hm]; rfl
      | false => rw [dropImages_step hs he hm]; rfl

/-- All other events count as if the images were not there. -/
theorem dropImages_run (events : List Event) :
    (({} : Importer).run events).dropImages = ({} : Importer).run (withoutImages events) :=
  dropImages_run_keep rfl events

end Importer

/-! ## Described images -/

theorem imageDepth_concat (past : List Event) {e : Event} (h : e.marksImage = false) :
    imageDepth (past ++ [e]) = imageDepth past := by
  rw [imageDepth, List.foldl_append]
  cases e with
  | start tag => cases tag <;> first | rfl | cases h
  | finish tag => cases tag <;> first | rfl | cases h
  | _ => rfl

theorem imageDepth_start (past : List Event) (url : String) :
    imageDepth (past ++ [.start (.image url)]) = imageDepth past + 1 := by
  rw [imageDepth, List.foldl_append]
  rfl

theorem imageDepth_finish (past : List Event) :
    imageDepth (past ++ [.finish .image]) = imageDepth past - 1 := by
  rw [imageDepth, List.foldl_append]
  rfl

/-- Where `quiet` holds, nothing leaks in the events, and `quiet` holds again after them. -/
abbrev Tight (quiet : List Event → Prop) (events : List Event) : Prop :=
  Gives (keeping leaking) quiet events []

/-- The position in a description that stands at the given depth. -/
structure InDescription (depth : Nat) (past : List Event) : Prop where
  image : imageOpen past = true
  depth : imageDepth past = depth

/-- Outside all images. -/
def Outside (past : List Event) : Prop := imageDepth past = 0

theorem InDescription.concat {depth : Nat} {past : List Event} (h : InDescription depth past)
    {e : Event} (he : e.marksImage = false) : InDescription depth (past ++ [e]) :=
  ⟨(imageOpen_concat past he).trans h.image, (imageDepth_concat past he).trans h.depth⟩

theorem Outside.concat {past : List Event} (h : Outside past) {e : Event}
    (he : e.marksImage = false) : Outside (past ++ [e]) :=
  (imageDepth_concat past he).trans h

/-- Outside images nothing leaks. -/
theorem tight_outside {e : Event} (he : e.marksImage = false) : Tight Outside [e] := by
  refine gives_event (fun past h => ?_) fun past h => h.concat he
  have hdepth : imageDepth past = 0 := h
  simp [keeping, leaking, describes, hdepth]

/-- A description leaks nothing where it starts and ends a format or has something that a document
does not hold. -/
theorem tight_inside {depth : Nat} {e : Event} (he : e.marksImage = false)
    (ht : e.isText = false) : Tight (InDescription depth) [e] := by
  refine gives_event (fun past h => ?_) fun past h => h.concat he
  simp [keeping, leaking, describes, ht]

theorem tight_text (depth : Nat) (t : String) : Tight (InDescription depth) [.text t] := by
  refine gives_event (fun past h => ?_) fun past h => h.concat rfl
  simp [keeping, leaking, silent, h.image]

mutual

theorem tight_description (depth : Nat) :
    (i : Inline) → i.IsText → Tight (InDescription depth) i.events
  | .text t, _ => tight_text depth t
  | .ignored, _ => tight_inside rfl rfl
  | .styled style content, hi =>
    Gives.enclosed (tight_descriptions depth content hi)
      (tight_inside (by cases style <;> rfl) (by cases style <;> rfl))
      (tight_inside (by cases style <;> rfl) (by cases style <;> rfl))

theorem tight_descriptions (depth : Nat) :
    (is : List Inline) → Inline.IsTextList is → Tight (InDescription depth) (Inline.eventsList is)
  | [], _ => gives_nil
  | i :: is, ⟨hi, his⟩ => (tight_description depth i hi).append (tight_descriptions depth is his)

end

/-- Formatted text leaks nothing if it describes an image. -/
theorem tight_image (url : String) {content : List Inline} (hc : Inline.IsTextList content) :
    Tight Outside (Inline.image url content).events := by
  intro past h
  have hdepth : imageDepth past = 0 := h
  have hstart : InDescription 1 (past ++ [.start (.image url)]) :=
    ⟨imageOpen_start past url, by rw [imageDepth_start, hdepth]⟩
  obtain ⟨hnone, -, hend⟩ := tight_descriptions 1 content hc _ hstart
  rw [Inline.events, List.cons_append, gives, gives_concat, hnone]
  constructor
  · simp [keeping, leaking, describes, Event.isText]
  · have hfinish := imageDepth_finish (past ++ [.start (.image url)] ++ Inline.eventsList content)
    rw [hend] at hfinish
    simpa [Outside] using hfinish

mutual

theorem tight_inline : (i : Inline) → i.Described → Tight Outside i.events
  | .text _, _ | .code _, _ | .softBreak, _ | .hardBreak, _ | .ignored, _ => tight_outside rfl
  | .styled style content, hi =>
    Gives.enclosed (tight_inlines content hi) (tight_outside (by cases style <;> rfl))
      (tight_outside (by cases style <;> rfl))
  | .image url _, hi => tight_image url hi

theorem tight_inlines :
    (is : List Inline) → Inline.DescribedList is → Tight Outside (Inline.eventsList is)
  | [], _ => gives_nil
  | i :: is, ⟨hi, his⟩ => (tight_inline i hi).append (tight_inlines is his)

end

theorem tight_texts (texts : List String) : Tight Outside (texts.map .text) := by
  induction texts with
  | nil => exact gives_nil
  | cons t texts ih => exact Gives.append (tight_outside (e := .text t) rfl) ih

mutual

theorem tight_block : (b : Block) → b.Described → Tight Outside b.events
  | .paragraph content, hb | .heading _ content, hb =>
    Gives.enclosed (tight_inlines content hb) (tight_outside rfl) (tight_outside rfl)
  | .list _ items, hb =>
    Gives.enclosed (tight_items items hb) (tight_outside rfl) (tight_outside rfl)
  | .code _ texts, _ => Gives.enclosed (tight_texts texts) (tight_outside rfl) (tight_outside rfl)
  | .rule, _ | .ignored, _ => tight_outside rfl
  | .other children, hb =>
    Gives.enclosed (tight_blocks children hb) (tight_outside rfl) (tight_outside rfl)

theorem tight_blocks :
    (bs : List Block) → Block.DescribedList bs → Tight Outside (Block.eventsList bs)
  | [], _ => gives_nil
  | b :: bs, ⟨hb, hbs⟩ => (tight_block b hb).append (tight_blocks bs hbs)

theorem tight_part : (p : ItemPart) → p.Described → Tight Outside p.events
  | .inline i, hp => tight_inline i hp
  | .block b, hp => tight_block b hp

theorem tight_parts :
    (ps : List ItemPart) → ItemPart.DescribedList ps → Tight Outside (ItemPart.eventsList ps)
  | [], _ => gives_nil
  | p :: ps, ⟨hp, hps⟩ => (tight_part p hp).append (tight_parts ps hps)

theorem tight_items : (items : List (List ItemPart)) → ItemPart.DescribedItems items →
    Tight Outside (ItemPart.eventsItems items)
  | [], _ => gives_nil
  | item :: rest, ⟨hi, hr⟩ =>
    Gives.append (Gives.enclosed (tight_parts item hi) (tight_outside rfl) (tight_outside rfl))
      (tight_items rest hr)

end

/-- Formatted text leaks nothing if it describes images. -/
theorem leaks_eventsList {bs : List Block} (h : Block.DescribedList bs) :
    leaks (Block.eventsList bs) = [] := (tight_blocks bs h [] rfl).1

/-! ## Documents -/

/-- Descriptions leave no trace in a document if nothing leaks out of them. -/
theorem postOfEvents_withoutDescriptions {events : List Event} (h : leaks events = []) :
    postOfEvents (withoutDescriptions events) = postOfEvents events :=
  congrArg Importer.toPost (Importer.run_withoutDescriptions h)

/-- Besides images, a document is as if there had been no images. -/
theorem sections_withoutImages (events : List Event) :
    (postOfEvents (withoutImages events)).sections = imageless (postOfEvents events).sections := by
  have hrun : postOfEvents (withoutImages events) =
      (({} : Importer).run events).dropImages.toPost :=
    congrArg Importer.toPost (Importer.dropImages_run events).symm
  rw [hrun, Importer.toPost, ← Importer.dropImages_flushBlock, ← Importer.dropImages_flushList]
  rfl

end Markdown
end RichText

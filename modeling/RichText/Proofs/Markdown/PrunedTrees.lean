import RichText.Proofs.Markdown.ImageDescriptions
import RichText.Proofs.Markdown.Translation

/-!
# Trees with something taken out

If what is deleted from the events of a tree is decided inline by inline, the rest are the events of
another tree, in which other inlines stand in place of each one (`Block.replaced`, `Keeps.blocks`).
Two such trees belong to the descriptions of images.

* `Block.unframedList`: the images are taken out. What leaks out of their descriptions stays in
  their place (`withoutImages_eventsList`). The document says what this tree says, besides its
  images (`contents_imageless`).
* `Block.bareList`: the images stay, without what their descriptions say
  (`withoutDescriptions_eventsList`).
-/

namespace RichText.Markdown

/-! ## Replacing inlines -/

mutual

/-- A block with other inlines in place of each one. -/
def Block.replaced (f : Inline → List Inline) : Block → Block
  | .paragraph content => .paragraph (content.flatMap f)
  | .heading level content => .heading level (content.flatMap f)
  | .list start items => .list start (ItemPart.replacedItems f items)
  | .code info texts => .code info texts
  | .rule => .rule
  | .other children => .other (Block.replacedList f children)
  | .ignored => .ignored

def Block.replacedList (f : Inline → List Inline) : List Block → List Block
  | [] => []
  | b :: rest => b.replaced f :: Block.replacedList f rest

def ItemPart.replaced (f : Inline → List Inline) : ItemPart → List ItemPart
  | .inline i => (f i).map .inline
  | .block b => [.block (b.replaced f)]

def ItemPart.replacedList (f : Inline → List Inline) : List ItemPart → List ItemPart
  | [] => []
  | p :: rest => p.replaced f ++ ItemPart.replacedList f rest

def ItemPart.replacedItems (f : Inline → List Inline) : List (List ItemPart) → List (List ItemPart)
  | [] => []
  | item :: rest => ItemPart.replacedList f item :: ItemPart.replacedItems f rest

end

theorem Inline.eventsList_append (is js : List Inline) :
    Inline.eventsList (is ++ js) = Inline.eventsList is ++ Inline.eventsList js := by
  induction is with
  | nil => rfl
  | cons i is ih => rw [List.cons_append, eventsList, eventsList, ih, List.append_assoc]

theorem ItemPart.eventsList_append (ps qs : List ItemPart) :
    ItemPart.eventsList (ps ++ qs) = ItemPart.eventsList ps ++ ItemPart.eventsList qs := by
  induction ps with
  | nil => rfl
  | cons p ps ih => rw [List.cons_append, eventsList, eventsList, ih, List.append_assoc]

theorem ItemPart.eventsList_map_inline (is : List Inline) :
    ItemPart.eventsList (is.map .inline) = Inline.eventsList is := by
  induction is with
  | nil => rfl
  | cons i is ih => rw [List.map_cons, eventsList, Inline.eventsList, ih]; rfl

theorem ItemPart.replacedList_append (f : Inline → List Inline) (ps qs : List ItemPart) :
    ItemPart.replacedList f (ps ++ qs) =
      ItemPart.replacedList f ps ++ ItemPart.replacedList f qs := by
  induction ps with
  | nil => rfl
  | cons p ps ih => rw [List.cons_append, replacedList, replacedList, ih, List.append_assoc]

theorem ItemPart.replacedList_map_inline (f : Inline → List Inline) (is : List Inline) :
    ItemPart.replacedList f (is.map .inline) = (is.flatMap f).map .inline := by
  induction is with
  | nil => rfl
  | cons i is ih =>
    rw [List.map_cons, replacedList, ih, List.flatMap_cons, List.map_append]
    rfl

/-- Where `quiet` holds, `p` keeps of an inline what `f` puts in its place, and keeps all events
between inlines. -/
structure Keeps (p : List Event → Event → Bool) (quiet : List Event → Prop)
    (f : Inline → List Inline) : Prop where
  inline : ∀ i : Inline, Gives (keeping p) quiet i.events (Inline.eventsList (f i))
  event : ∀ e : Event, e.marksImage = false → Gives (keeping p) quiet [e] [e]

section Keeps

variable {p : List Event → Event → Bool} {quiet : List Event → Prop} {f : Inline → List Inline}

theorem Keeps.inlines (h : Keeps p quiet f) (is : List Inline) :
    Gives (keeping p) quiet (Inline.eventsList is) (Inline.eventsList (is.flatMap f)) := by
  induction is with
  | nil => exact gives_nil
  | cons i is ih =>
    rw [List.flatMap_cons, Inline.eventsList_append]
    exact (h.inline i).append ih

theorem Keeps.texts (h : Keeps p quiet f) (texts : List String) :
    Gives (keeping p) quiet (texts.map .text) (texts.map .text) := by
  induction texts with
  | nil => exact gives_nil
  | cons t texts ih => exact (h.event (.text t) rfl).append ih

theorem Keeps.within (h : Keeps p quiet f) {es out : List Event}
    (hes : Gives (keeping p) quiet es out) {first last : Event} (hf : first.marksImage = false)
    (hl : last.marksImage = false) :
    Gives (keeping p) quiet (first :: es ++ [last]) (first :: out ++ [last]) :=
  Gives.enclosed hes (h.event first hf) (h.event last hl)

mutual

theorem Keeps.block (h : Keeps p quiet f) :
    (b : Block) → Gives (keeping p) quiet b.events (b.replaced f).events
  | .paragraph content | .heading _ content => h.within (h.inlines content) rfl rfl
  | .list _ items => h.within (h.items items) rfl rfl
  | .code _ texts => h.within (h.texts texts) rfl rfl
  | .rule | .ignored => h.event _ rfl
  | .other children => h.within (h.blocks children) rfl rfl

theorem Keeps.blocks (h : Keeps p quiet f) : (bs : List Block) →
    Gives (keeping p) quiet (Block.eventsList bs) (Block.eventsList (Block.replacedList f bs))
  | [] => gives_nil
  | b :: bs => (h.block b).append (h.blocks bs)

theorem Keeps.part (h : Keeps p quiet f) : (q : ItemPart) →
    Gives (keeping p) quiet q.events (ItemPart.eventsList (q.replaced f))
  | .inline i => by
    rw [ItemPart.replaced, ItemPart.eventsList_map_inline]
    exact h.inline i
  | .block b => by
    have hb := h.block b
    rw [← List.append_nil (b.replaced f).events] at hb
    exact hb

theorem Keeps.parts (h : Keeps p quiet f) : (qs : List ItemPart) →
    Gives (keeping p) quiet (ItemPart.eventsList qs)
      (ItemPart.eventsList (ItemPart.replacedList f qs))
  | [] => gives_nil
  | q :: qs => by
    rw [ItemPart.replacedList, ItemPart.eventsList_append]
    exact (h.part q).append (h.parts qs)

theorem Keeps.items (h : Keeps p quiet f) : (items : List (List ItemPart)) →
    Gives (keeping p) quiet (ItemPart.eventsItems items)
      (ItemPart.eventsItems (ItemPart.replacedItems f items))
  | [] => gives_nil
  | item :: rest => (h.within (h.parts item) rfl rfl).append (h.items rest)

end

end Keeps

/-! ## Images taken out -/

mutual

/-- What an inline leaves if images are taken out, where `inside` tells whether an image is open. -/
def Inline.unframed (inside : Bool) : Inline → List Inline
  | .text s => if inside then [] else [.text s]
  | .code s => [.code s]
  | .softBreak => [.softBreak]
  | .hardBreak => [.hardBreak]
  | .ignored => [.ignored]
  | .styled style content => [.styled style (Inline.unframedList inside content)]
  | .image _ content => Inline.unframedList true content

/-- An image that ends takes the one around it to have ended too. -/
def Inline.unframedList (inside : Bool) : List Inline → List Inline
  | [] => []
  | i :: rest => i.unframed inside ++ Inline.unframedList (inside && i.objects.isEmpty) rest

end

theorem unframedList_singleton (inside : Bool) (i : Inline) :
    Inline.unframedList inside [i] = i.unframed inside := List.append_nil _

theorem unframedList_false (is : List Inline) :
    Inline.unframedList false is = is.flatMap (Inline.unframed false) := by
  induction is with
  | nil => rfl
  | cons i is ih => rw [Inline.unframedList, Bool.false_and, ih, List.flatMap_cons]

theorem Inline.objectsList_append (is js : List Inline) :
    Inline.objectsList (is ++ js) = Inline.objectsList is ++ Inline.objectsList js := by
  induction is with
  | nil => rfl
  | cons i is ih => rw [List.cons_append, objectsList, objectsList, ih, List.append_assoc]

theorem Inline.unframedList_append (inside : Bool) (is js : List Inline) :
    Inline.unframedList inside (is ++ js) = Inline.unframedList inside is ++
      Inline.unframedList (inside && (Inline.objectsList is).isEmpty) js := by
  induction is generalizing inside with
  | nil => simp [unframedList, objectsList]
  | cons i is ih =>
    rw [List.cons_append, unframedList, unframedList, ih, List.append_assoc, objectsList,
      Bool.and_assoc]
    cases i.objects <;> simp

/-- Blocks without their images. -/
def Block.unframedList (bs : List Block) : List Block :=
  Block.replacedList (Inline.unframed false) bs

theorem keeping_imageFree {past : List Event} {e : Event} (hs : silent past e = false)
    (hm : e.marksImage = false) : keeping imageFree past e = [e] := by
  simp [keeping, imageFree, hs, hm]

mutual

/-- The events of an inline without those of images are the events of what it leaves. -/
theorem keep_inline (past : List Event) : (i : Inline) →
    keep imageFree past i.events = Inline.eventsList (i.unframed (imageOpen past))
  | .text t => by
    cases h : imageOpen past <;>
      simp [Inline.events, Inline.unframed, Inline.eventsList, keep, gives, keeping, imageFree,
        silent, Event.marksImage, h]
  | .code _ | .softBreak | .hardBreak | .ignored => rfl
  | .styled style content => by
    have hstart : keeping imageFree past (.start style.startTag) = [.start style.startTag] :=
      keeping_imageFree rfl (by cases style <;> rfl)
    have hcontent := keep_inlineList (past ++ [.start style.startTag]) content
    rw [imageOpen_concat past (by cases style <;> rfl)] at hcontent
    rw [Inline.events, List.cons_append, keep_cons, hstart, keep_append, keep_singleton, hcontent,
      keeping_imageFree rfl (by cases style <;> rfl)]
    simp [Inline.unframed, Inline.eventsList, Inline.events]
  | .image url content => by
    have hcontent := keep_inlineList (past ++ [.start (.image url)]) content
    rw [imageOpen_start] at hcontent
    rw [Inline.events, List.cons_append, keep_cons, keep_append, keep_singleton, hcontent]
    simp [keeping, imageFree, Event.marksImage, Inline.unframed]

theorem keep_inlineList (past : List Event) : (is : List Inline) →
    keep imageFree past (Inline.eventsList is) =
      Inline.eventsList (Inline.unframedList (imageOpen past) is)
  | [] => rfl
  | i :: is => by
    rw [Inline.eventsList, keep_append, keep_inline past i, keep_inlineList _ is,
      imageOpen_inline, ← Inline.eventsList_append]
    rfl

end

theorem keeps_unframed : Keeps imageFree (imageOpen · = false) (Inline.unframed false) where
  inline i past h := by
    have hopen : imageOpen past = false := h
    refine ⟨?_, by simp [imageOpen_inline, hopen]⟩
    rw [← hopen]
    exact keep_inline past i
  event e he := by
    refine gives_event (fun past h => keeping_imageFree ?_ he) fun past h => ?_
    · have hopen : imageOpen past = false := h
      cases e with
      | text t => exact hopen
      | _ => rfl
    · rwa [imageOpen_concat past he]

theorem withoutImages_eventsList (bs : List Block) :
    withoutImages (Block.eventsList bs) = Block.eventsList (Block.unframedList bs) :=
  (keeps_unframed.blocks bs [] rfl).1

/-! No image is left, so that nothing is described. -/

theorem Inline.described_append {is js : List Inline} (hi : Inline.DescribedList is)
    (hj : Inline.DescribedList js) : Inline.DescribedList (is ++ js) := by
  induction is with
  | nil => exact hj
  | cons i is ih => exact ⟨hi.1, ih hi.2⟩

mutual

theorem Inline.described_unframed (inside : Bool) :
    (i : Inline) → Inline.DescribedList (i.unframed inside)
  | .text _ => by cases inside <;> simp [Inline.unframed, Inline.DescribedList, Inline.Described]
  | .code _ | .softBreak | .hardBreak | .ignored => ⟨trivial, trivial⟩
  | .styled _ content => ⟨Inline.described_unframedList inside content, trivial⟩
  | .image _ content => Inline.described_unframedList true content

theorem Inline.described_unframedList (inside : Bool) :
    (is : List Inline) → Inline.DescribedList (Inline.unframedList inside is)
  | [] => trivial
  | i :: is =>
    Inline.described_append (i.described_unframed inside) (Inline.described_unframedList _ is)

end

theorem ItemPart.described_append {ps qs : List ItemPart} (hp : ItemPart.DescribedList ps)
    (hq : ItemPart.DescribedList qs) : ItemPart.DescribedList (ps ++ qs) := by
  induction ps with
  | nil => exact hq
  | cons p ps ih => exact ⟨hp.1, ih hp.2⟩

theorem ItemPart.described_map_inline {is : List Inline} (h : Inline.DescribedList is) :
    ItemPart.DescribedList (is.map .inline) := by
  induction is with
  | nil => trivial
  | cons i is ih => exact ⟨h.1, ih h.2⟩

section Described

variable {f : Inline → List Inline}

theorem Inline.described_flatMap (hf : ∀ i, Inline.DescribedList (f i)) (is : List Inline) :
    Inline.DescribedList (is.flatMap f) := by
  induction is with
  | nil => trivial
  | cons i is ih => exact Inline.described_append (hf i) ih

mutual

theorem Block.described_replaced (hf : ∀ i, Inline.DescribedList (f i)) :
    (b : Block) → (b.replaced f).Described
  | .paragraph content | .heading _ content => Inline.described_flatMap hf content
  | .list _ items => ItemPart.described_replacedItems hf items
  | .other children => Block.described_replacedList hf children
  | .code _ _ | .rule | .ignored => trivial

theorem Block.described_replacedList (hf : ∀ i, Inline.DescribedList (f i)) :
    (bs : List Block) → Block.DescribedList (Block.replacedList f bs)
  | [] => trivial
  | b :: bs => ⟨Block.described_replaced hf b, Block.described_replacedList hf bs⟩

theorem ItemPart.described_replaced (hf : ∀ i, Inline.DescribedList (f i)) :
    (p : ItemPart) → ItemPart.DescribedList (p.replaced f)
  | .inline i => ItemPart.described_map_inline (hf i)
  | .block b => ⟨Block.described_replaced hf b, trivial⟩

theorem ItemPart.described_replacedList (hf : ∀ i, Inline.DescribedList (f i)) :
    (ps : List ItemPart) → ItemPart.DescribedList (ItemPart.replacedList f ps)
  | [] => trivial
  | p :: ps =>
    ItemPart.described_append (ItemPart.described_replaced hf p)
      (ItemPart.described_replacedList hf ps)

theorem ItemPart.described_replacedItems (hf : ∀ i, Inline.DescribedList (f i)) :
    (items : List (List ItemPart)) → ItemPart.DescribedItems (ItemPart.replacedItems f items)
  | [] => trivial
  | item :: rest =>
    ⟨ItemPart.described_replacedList hf item, ItemPart.described_replacedItems hf rest⟩

end

end Described

theorem Block.described_unframedList (bs : List Block) :
    Block.DescribedList (Block.unframedList bs) :=
  Block.described_replacedList (Inline.described_unframed false) bs

/-- Besides images, a document says what the tree says if its images are taken out. -/
theorem contents_imageless (bs : List Block) :
    (imageless (postOfEvents (Block.eventsList bs)).sections).map Section.content =
      Block.contentsList (Block.unframedList bs) := by
  rw [← sections_withoutImages, withoutImages_eventsList]
  exact (Importer.renders_all _ (Block.described_unframedList bs)).contents

/-! ## Descriptions taken out -/

mutual

/-- What is left of an inline if descriptions of images say nothing, where `inside` tells whether
the inline belongs to one. -/
def Inline.bare (inside : Bool) : Inline → List Inline
  | .text s => if inside then [] else [.text s]
  | .code s => if inside then [] else [.code s]
  | .softBreak => if inside then [] else [.softBreak]
  | .hardBreak => if inside then [] else [.hardBreak]
  | .ignored => [.ignored]
  | .styled style content => [.styled style (Inline.bareList inside content)]
  | .image url content => [.image url (Inline.bareList true content)]

def Inline.bareList (inside : Bool) : List Inline → List Inline
  | [] => []
  | i :: rest => i.bare inside ++ Inline.bareList inside rest

end

theorem bareList_eq_flatMap (inside : Bool) (is : List Inline) :
    Inline.bareList inside is = is.flatMap (Inline.bare inside) := by
  induction is with
  | nil => rfl
  | cons i is ih => rw [Inline.bareList, ih, List.flatMap_cons]

mutual

/-- Without descriptions the images are the same. -/
theorem objectsList_bare (inside : Bool) :
    (i : Inline) → Inline.objectsList (i.bare inside) = i.objects
  | .text _ | .code _ | .softBreak | .hardBreak => by cases inside <;> rfl
  | .ignored => rfl
  | .styled _ content => (List.append_nil _).trans (objectsList_bareList inside content)
  | .image url content => by
    rw [Inline.bare, Inline.objectsList, Inline.objects, objectsList_bareList true content]
    exact List.append_nil _

theorem objectsList_bareList (inside : Bool) :
    (is : List Inline) → Inline.objectsList (Inline.bareList inside is) = Inline.objectsList is
  | [] => rfl
  | i :: is => by
    rw [Inline.bareList, Inline.objectsList_append, objectsList_bare inside i,
      objectsList_bareList inside is, Inline.objectsList]

end

/-- Blocks in which images have no descriptions. -/
def Block.bareList (bs : List Block) : List Block := Block.replacedList (Inline.bare false) bs

mutual

/-- An inline ends all images that it starts. -/
theorem imageDepth_inline (past : List Event) :
    (i : Inline) → imageDepth (past ++ i.events) = imageDepth past
  | .text _ | .code _ | .softBreak | .hardBreak | .ignored => imageDepth_concat past rfl
  | .styled style content => by
    have hcontent := imageDepth_inlineList (past ++ [.start style.startTag]) content
    rw [imageDepth_concat past (by cases style <;> rfl), List.append_assoc] at hcontent
    rw [Inline.events, ← List.append_assoc, imageDepth_concat _ (by cases style <;> rfl)]
    exact hcontent
  | .image url content => by
    have hcontent := imageDepth_inlineList (past ++ [.start (.image url)]) content
    rw [imageDepth_start, List.append_assoc] at hcontent
    rw [Inline.events, ← List.append_assoc, imageDepth_finish]
    exact congrArg (· - 1) hcontent

theorem imageDepth_inlineList (past : List Event) :
    (is : List Inline) → imageDepth (past ++ Inline.eventsList is) = imageDepth past
  | [] => by rw [Inline.eventsList, List.append_nil]
  | i :: is => by
    rw [Inline.eventsList, ← List.append_assoc, imageDepth_inlineList _ is, imageDepth_inline _ i]

end

theorem keeping_undescribed {past : List Event} {e : Event} (h : describes past e = false) :
    keeping (fun past e => !describes past e) past e = [e] := by
  simp [keeping, h]

mutual

theorem keep_undescribed (past : List Event) : (i : Inline) →
    keep (fun past e => !describes past e) past i.events =
      Inline.eventsList (i.bare (0 < imageDepth past))
  | .text _ | .code _ | .softBreak | .hardBreak => by
    by_cases h : 0 < imageDepth past <;>
      simp [Inline.events, Inline.bare, Inline.eventsList, keep, gives, keeping, describes,
        Event.isText, h]
  | .ignored => rfl
  | .styled style content => by
    have hcontent := keep_undescribedList (past ++ [.start style.startTag]) content
    rw [imageDepth_concat past (by cases style <;> rfl)] at hcontent
    rw [Inline.events, List.cons_append, keep_cons, keeping_undescribed rfl, keep_append,
      keep_singleton, hcontent, keeping_undescribed rfl]
    simp [Inline.bare, Inline.eventsList, Inline.events]
  | .image url content => by
    have hcontent := keep_undescribedList (past ++ [.start (.image url)]) content
    rw [imageDepth_start, decide_eq_true (Nat.succ_pos _)] at hcontent
    rw [Inline.events, List.cons_append, keep_cons, keeping_undescribed rfl, keep_append,
      keep_singleton, hcontent, keeping_undescribed rfl]
    simp [Inline.bare, Inline.eventsList, Inline.events]

theorem keep_undescribedList (past : List Event) : (is : List Inline) →
    keep (fun past e => !describes past e) past (Inline.eventsList is) =
      Inline.eventsList (Inline.bareList (0 < imageDepth past) is)
  | [] => rfl
  | i :: is => by
    rw [Inline.eventsList, keep_append, keep_undescribed past i, keep_undescribedList _ is,
      imageDepth_inline, ← Inline.eventsList_append]
    rfl

end

theorem keeps_bare :
    Keeps (fun past e => !describes past e) Outside (Inline.bare false) where
  inline i past h := by
    have hdepth : imageDepth past = 0 := h
    refine ⟨?_, (imageDepth_inline past i).trans hdepth⟩
    have hkeep := keep_undescribed past i
    rwa [hdepth] at hkeep
  event e he := by
    refine gives_event (fun past h => keeping_undescribed ?_) fun past h => h.concat he
    have hdepth : imageDepth past = 0 := h
    simp [describes, hdepth]

theorem withoutDescriptions_eventsList (bs : List Block) :
    withoutDescriptions (Block.eventsList bs) = Block.eventsList (Block.bareList bs) :=
  (keeps_bare.blocks bs [] rfl).1

end RichText.Markdown

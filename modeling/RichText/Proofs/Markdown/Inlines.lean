import RichText.Proofs.Markdown.Meaning

/-!
# Inlines and code blocks in a stream of events

What the importer does with the events of an inline or a code block.

**Text** (`run_inline`). While a block or a list is open (`Reading`), an inline only adds runs and
holds back images (`collect`). All formats that it opens are closed again, so that the next inline
stands in the same formats.

**Images** (`run_image`). Formatted text in an image leaves no trace.

**Code blocks** (`run_code`). The texts of a code block are joined into one card, which goes where
any other block goes.
-/

namespace RichText.Markdown

namespace Importer

variable {s : Importer}

/-- The state after events. -/
def run (s : Importer) (events : List Event) : Importer := events.foldl step s

@[simp] theorem run_nil : s.run [] = s := rfl

@[simp] theorem run_cons (e : Event) (es : List Event) : s.run (e :: es) = (s.step e).run es := rfl

@[simp] theorem run_append (es fs : List Event) : s.run (es ++ fs) = (s.run es).run fs :=
  List.foldl_append

/-- Events between a first and a last one. -/
theorem run_enclosed (first last : Event) (es : List Event) :
    s.run (first :: es ++ [last]) = ((s.step first).run es).step last := by
  rw [List.cons_append, run_cons, run_append, run_cons, run_nil]

/-! ## Runs and blocks held back -/

/-- The state with more runs and more blocks held back. -/
def collect (s : Importer) (runs : List Run) (blocks : List Section) : Importer :=
  { s with runs := s.runs ++ runs, pending := s.pending ++ blocks }

theorem collect_nil : s.collect [] [] = s := by
  simp [collect]

theorem collect_collect (r r' : List Run) (b b' : List Section) :
    (s.collect r b).collect r' b' = s.collect (r ++ r') (b ++ b') := by
  simp [collect]

theorem pushBlock_enclosed (h : s.blockTag.isSome ∨ 0 < s.listDepth) (b : Section) :
    s.pushBlock b = s.collect [] [b] := by
  have hopen : (s.blockTag.isSome || 0 < s.listDepth) = true := by simpa using h
  rw [pushBlock, if_pos hopen, collect, List.append_nil]

/-- A format around events that leave the formats as they were. -/
theorem run_styled {t : Importer} {style : Style} {content : List Inline}
    (h : (s.openMarkup style.markup).run (Inline.eventsList content) = t.openMarkup style.markup) :
    s.run (Inline.styled style content).events = t := by
  have hstart : s.step (.start style.startTag) = s.openMarkup style.markup := by
    cases style <;> rfl
  have hfinish (u : Importer) :
      u.step (.finish style.endTag) = { u with markups := u.markups.dropLast } := by
    cases style <;> rfl
  rw [Inline.events, run_enclosed, hstart, h, hfinish]
  simp [openMarkup]

/-! ## Inlines -/

mutual

theorem run_text_in_image {s : Importer} (h : s.inImage = true) :
    (i : Inline) → i.IsText → s.run i.events = s
  | .text t, _ => by simp [Inline.events, step, pushText, h]
  | .ignored, _ => rfl
  | .styled style content, hi =>
    have hopen : (s.openMarkup style.markup).inImage = true := h
    run_styled (run_textList_in_image hopen content hi)

theorem run_textList_in_image {s : Importer} (h : s.inImage = true) :
    (is : List Inline) → Inline.IsTextList is → s.run (Inline.eventsList is) = s
  | [], _ => rfl
  | i :: is, ⟨hi, his⟩ => by
    rw [Inline.eventsList, run_append, run_text_in_image h i hi, run_textList_in_image h is his]

end

/-- A block or a list is open, and neither a code block nor an image. -/
structure Reading (s : Importer) : Prop where
  code : s.code = none
  inImage : s.inImage = false
  enclosed : s.blockTag.isSome ∨ 0 < s.listDepth

theorem Reading.collect (hs : s.Reading) (r : List Run) (b : List Section) :
    (s.collect r b).Reading := ⟨hs.code, hs.inImage, hs.enclosed⟩

theorem Reading.openMarkup (hs : s.Reading) (m : Markup) : (s.openMarkup m).Reading :=
  ⟨hs.code, hs.inImage, hs.enclosed⟩

theorem run_image (hs : s.Reading) (url : String) {content : List Inline}
    (hc : Inline.IsTextList content) :
    s.run (Inline.image url content).events = s.collect [] [.image ⟨url⟩] := by
  have hstart : s.step (.start (.image url)) =
      ({ s with inImage := true } : Importer).collect [] [.image ⟨url⟩] :=
    pushBlock_enclosed (s := { s with inImage := true }) hs.enclosed _
  rw [Inline.events, run_enclosed, hstart, run_textList_in_image rfl content hc]
  simp [step, finish, Importer.collect, hs.inImage]

mutual

/-- An inline adds its text under the open formats and its images, and nothing else. -/
theorem run_inline {s : Importer} (hs : s.Reading) :
    (i : Inline) → i.Described → s.run i.events = s.collect (i.runs s.markups) i.images
  | .text t, _ => by
    simp [Inline.events, step, pushText, hs.code, hs.inImage, pushRun, Inline.runs, Inline.images,
      Importer.collect]
  | .code t, _ => by
    simp [Inline.events, step, pushCode, Inline.runs, Inline.images, Importer.collect]
  | .softBreak, _ => by
    simp [Inline.events, step, pushRun, Inline.runs, Inline.images, Importer.collect]
  | .hardBreak, _ => by
    simp [Inline.events, step, pushRun, Inline.runs, Inline.images, Importer.collect]
  | .ignored, _ => collect_nil.symm
  | .styled style content, hi =>
    run_styled (run_inlineList (hs.openMarkup style.markup) content hi)
  | .image url _, hi => run_image hs url hi

theorem run_inlineList {s : Importer} (hs : s.Reading) :
    (is : List Inline) → Inline.DescribedList is →
      s.run (Inline.eventsList is) = s.collect (Inline.runsList s.markups is) (Inline.imagesList is)
  | [], _ => collect_nil.symm
  | i :: is, ⟨hi, his⟩ => by
    rw [Inline.eventsList, run_append, run_inline hs i hi, run_inlineList (hs.collect _ _) is his,
      collect_collect]
    rfl

end

/-! ## Code blocks -/

theorem run_texts (hs : s.inImage = false) (language code : String) (texts : List String) :
    ({ s with code := some (language, code) } : Importer).run (texts.map .text) =
      { s with code := some (language, code ++ String.join texts) } := by
  induction texts generalizing code with
  | nil => simp
  | cons t texts ih =>
    have hstep : ({ s with code := some (language, code) } : Importer).step (.text t) =
        { s with code := some (language, code ++ t) } := by
      simp [step, pushText, hs]
    rw [List.map_cons, run_cons, hstep, ih, String.join_cons, String.append_assoc]

/-- A code block is a card, made of all its texts. -/
theorem run_code (hcode : s.code = none) (himage : s.inImage = false) (info : Option String)
    (texts : List String) :
    s.run (Block.code info texts).events = s.pushBlock (.card (codeBlockCard info texts)) := by
  have hstart : s.step (.start (.codeBlock info)) =
      { s with code := some (info.getD "", "") } := rfl
  have hs : ({ s with code := none } : Importer) = s := by rw [← hcode]
  rw [Block.events, run_enclosed, hstart, run_texts himage, String.empty_append]
  change pushBlock { s with code := none } _ = _
  rw [hs]
  rfl

end Importer
end RichText.Markdown

import Mathlib.Data.List.DropRight
import RichText.Proofs.Markdown.Inlines

/-!
# What is open in a stream of events

Events need not be nested. What is open after some of them is read off the events so far: an image
is open if the latest start or end of an image is a start (`imageOpen`), and a code block likewise
(`openCode?`). The text of the open code block is what was heard since its start, and a text is
heard unless an image is open where it stands (`heard`).

Between two events the importer knows just that (`Importer.context_run`).
-/

namespace RichText.Markdown

/-! ## Reading a stream -/

/-- What events give in turn, each in view of the events before it. -/
def gives (f : List Event → Event → List α) (past : List Event) : List Event → List α
  | [] => []
  | e :: rest => f past e ++ gives f (past ++ [e]) rest

theorem gives_append (f : List Event → Event → List α) (past es fs : List Event) :
    gives f past (es ++ fs) = gives f past es ++ gives f (past ++ es) fs := by
  induction es generalizing past with
  | nil => simp [gives]
  | cons e es ih => simp [gives, ih]

theorem gives_concat (f : List Event → Event → List α) (past es : List Event) (e : Event) :
    gives f past (es ++ [e]) = gives f past es ++ f (past ++ es) e := by
  rw [gives_append, gives, gives, List.append_nil]

/-- Wherever `quiet` holds, the events give `out`, and `quiet` holds again after them. -/
def Gives (f : List Event → Event → List α) (quiet : List Event → Prop) (events : List Event)
    (out : List α) : Prop :=
  ∀ past, quiet past → gives f past events = out ∧ quiet (past ++ events)

section Gives

variable {f : List Event → Event → List α} {quiet : List Event → Prop} {es fs : List Event}
  {a b c : List α}

theorem gives_nil : Gives f quiet [] [] := fun past h => ⟨rfl, by rwa [List.append_nil]⟩

theorem gives_event {e : Event} (he : ∀ past, quiet past → f past e = a)
    (hq : ∀ past, quiet past → quiet (past ++ [e])) : Gives f quiet [e] a :=
  fun past h => ⟨by rw [gives, he past h, gives, List.append_nil], hq past h⟩

theorem Gives.append (he : Gives f quiet es a) (hf : Gives f quiet fs b) :
    Gives f quiet (es ++ fs) (a ++ b) := by
  intro past h
  obtain ⟨ha, hmid⟩ := he past h
  obtain ⟨hb, hend⟩ := hf (past ++ es) hmid
  exact ⟨by rw [gives_append, ha, hb], by rwa [← List.append_assoc]⟩

theorem Gives.enclosed {first last : Event} (hes : Gives f quiet es b)
    (hfirst : Gives f quiet [first] a) (hlast : Gives f quiet [last] c) :
    Gives f quiet (first :: es ++ [last]) (a ++ b ++ c) :=
  (hfirst.append hes).append hlast

end Gives

/-- The events up to the latest one that satisfies `p`. -/
def upToLatest (p : Event → Bool) (past : List Event) : List Event :=
  past.rdropWhile fun e => !p e

/-- The events after the latest one that satisfies `p`. -/
def sinceLatest (p : Event → Bool) (past : List Event) : List Event :=
  past.rtakeWhile fun e => !p e

theorem upToLatest_append_sinceLatest (p : Event → Bool) (past : List Event) :
    upToLatest p past ++ sinceLatest p past = past :=
  List.rdropWhile_append_rtakeWhile

section Concat

variable {p : Event → Bool} {e : Event} (past : List Event)

theorem upToLatest_concat_of_mark (h : p e = true) :
    upToLatest p (past ++ [e]) = past ++ [e] :=
  List.rdropWhile_concat_neg _ _ _ (by simp [h])

theorem sinceLatest_concat_of_mark (h : p e = true) : sinceLatest p (past ++ [e]) = [] :=
  List.rtakeWhile_concat_neg _ _ _ (by simp [h])

theorem upToLatest_concat (h : p e = false) :
    upToLatest p (past ++ [e]) = upToLatest p past :=
  List.rdropWhile_concat_pos _ _ _ (by simp [h])

theorem sinceLatest_concat (h : p e = false) :
    sinceLatest p (past ++ [e]) = sinceLatest p past ++ [e] :=
  List.rtakeWhile_concat_pos _ _ _ (by simp [h])

end Concat

/-! ## Images -/

/-- Starts or ends an image. -/
def Event.marksImage : Event → Bool
  | .start (.image _) | .finish .image => true
  | _ => false

/-- Whether an image is open: the latest start or end of an image is a start. -/
def imageOpen (past : List Event) : Bool :=
  match (upToLatest Event.marksImage past).getLast? with
  | some (.start _) => true
  | _ => false

theorem imageOpen_start (past : List Event) (url : String) :
    imageOpen (past ++ [.start (.image url)]) = true := by
  rw [imageOpen, upToLatest_concat_of_mark past rfl, List.getLast?_concat]

theorem imageOpen_finish (past : List Event) : imageOpen (past ++ [.finish .image]) = false := by
  rw [imageOpen, upToLatest_concat_of_mark past rfl, List.getLast?_concat]

theorem imageOpen_concat (past : List Event) {e : Event} (h : e.marksImage = false) :
    imageOpen (past ++ [e]) = imageOpen past := by
  rw [imageOpen, upToLatest_concat past h, ← imageOpen]

/-! ## Code blocks -/

/-- Starts or ends a code block. -/
def Event.marksCode : Event → Bool
  | .start (.codeBlock _) | .finish .codeBlock => true
  | _ => false

/-- The text of an event; nothing is heard while an image is open. -/
def heard (past : List Event) : Event → List String
  | .text t => if imageOpen past then [] else [t]
  | _ => []

/-- The information string of the open code block, if the latest start or end of a code block is a
start. -/
def openInfo? (past : List Event) : Option (Option String) :=
  match (upToLatest Event.marksCode past).getLast? with
  | some (.start (.codeBlock info)) => some info
  | _ => none

/-- The language of the open code block and what was heard since it started. -/
def openCode? (past : List Event) : Option (String × String) :=
  (openInfo? past).map fun info => (info.getD "", String.join
    (gives heard (upToLatest Event.marksCode past) (sinceLatest Event.marksCode past)))

theorem openCode?_start (past : List Event) (info : Option String) :
    openCode? (past ++ [.start (.codeBlock info)]) = some (info.getD "", "") := by
  rw [openCode?, openInfo?, upToLatest_concat_of_mark past rfl, List.getLast?_concat,
    sinceLatest_concat_of_mark past rfl]
  rfl

theorem openCode?_finish (past : List Event) : openCode? (past ++ [.finish .codeBlock]) = none := by
  rw [openCode?, openInfo?, upToLatest_concat_of_mark past rfl, List.getLast?_concat]
  rfl

theorem openCode?_concat (past : List Event) {e : Event} (h : e.marksCode = false) :
    openCode? (past ++ [e]) =
      (openCode? past).map fun c => (c.1, c.2 ++ String.join (heard past e)) := by
  rw [openCode?, openInfo?, upToLatest_concat past h, sinceLatest_concat past h, gives_concat,
    upToLatest_append_sinceLatest, ← openInfo?, openCode?, Option.map_map]
  simp [Function.comp_def, String.join_append]

/-- An event in which nothing is heard leaves the code block as it was. -/
theorem openCode?_concat_of_silent (past : List Event) {e : Event} (h : e.marksCode = false)
    (hs : heard past e = []) : openCode? (past ++ [e]) = openCode? past := by
  simp [openCode?_concat past h, hs]

/-! ## The state of the importer -/

/-- What is open after events: an image or not, and a code block with its language and text. -/
def contextAfter (past : List Event) : Bool × Option (String × String) :=
  (imageOpen past, openCode? past)

/-- An event that starts and ends neither, and in which nothing is heard, leaves open what was. -/
theorem contextAfter_concat (past : List Event) {e : Event} (hi : e.marksImage = false)
    (hc : e.marksCode = false) (hs : heard past e = []) :
    contextAfter (past ++ [e]) = contextAfter past := by
  rw [contextAfter, imageOpen_concat past hi, openCode?_concat_of_silent past hc hs, contextAfter]

namespace Importer

/-- What the importer holds open: an image or not, and a code block with its language and text. -/
def context (s : Importer) : Bool × Option (String × String) := (s.inImage, s.code)

variable (s : Importer)

/-! Most parts of a step have nothing to do with images and code blocks. -/

@[simp] theorem context_pushBlock (b : Section) : (s.pushBlock b).context = s.context := by
  unfold pushBlock
  split <;> rfl

@[simp] theorem context_flushItem : s.flushItem.context = s.context := by
  unfold flushItem
  split <;> rfl

@[simp] theorem context_flushList : s.flushList.context = s.context := rfl

@[simp] theorem context_startList (start : Option Nat) :
    (s.startList start).context = s.context := by
  unfold startList
  dsimp only
  split
  · rfl
  · exact context_flushItem _

@[simp] theorem context_startParagraph : s.startParagraph.context = s.context := by
  unfold startParagraph
  split
  · rfl
  · split <;> rfl

@[simp] theorem context_startHeading (level : HeadingLevel) :
    (s.startHeading level).context = s.context := by
  unfold startHeading
  split <;> rfl

@[simp] theorem context_finishList : s.finishList.context = s.context := by
  unfold finishList
  dsimp only
  split
  · rw [context_flushList, context_flushItem]
    rfl
  · rfl

@[simp] theorem context_finishBlock : s.finishBlock.context = s.context := by
  unfold finishBlock
  split <;> rfl

variable {s} {past : List Event}

theorem context_start (h : s.context = contextAfter past) (tag : StartTag) :
    (s.start tag).context = contextAfter (past ++ [.start tag]) := by
  obtain ⟨hi, hc⟩ := Prod.mk.inj h
  cases tag with
  | image url =>
    rw [contextAfter, imageOpen_start, openCode?_concat_of_silent past rfl rfl, ← hc]
    exact context_pushBlock _ _
  | codeBlock info =>
    rw [contextAfter, openCode?_start, imageOpen_concat past rfl, ← hi]
    rfl
  | paragraph | heading _ | list _ | item =>
    rw [contextAfter_concat past rfl rfl rfl, ← h]
    simp [start]
  | strong | emphasis | strikethrough | link _ | other =>
    rw [contextAfter_concat past rfl rfl rfl, ← h]
    rfl

theorem context_finish (h : s.context = contextAfter past) (tag : EndTag) :
    (s.finish tag).context = contextAfter (past ++ [.finish tag]) := by
  obtain ⟨hi, hc⟩ := Prod.mk.inj h
  cases tag with
  | image =>
    rw [contextAfter, imageOpen_finish, openCode?_concat_of_silent past rfl rfl, ← hc]
    rfl
  | codeBlock =>
    rw [contextAfter, openCode?_finish, imageOpen_concat past rfl, ← hi]
    show s.finishCode.context = _
    unfold finishCode
    split
    · exact context_pushBlock _ _
    · exact congrArg (Prod.mk _) (by assumption)
  | paragraph | heading | list | item =>
    rw [contextAfter_concat past rfl rfl rfl, ← h]
    simp [finish]
  | strong | emphasis | strikethrough | link | other =>
    rw [contextAfter_concat past rfl rfl rfl, ← h]
    rfl

theorem context_pushText (h : s.context = contextAfter past) (t : String) :
    (s.pushText t).context = contextAfter (past ++ [.text t]) := by
  obtain ⟨hi, hc⟩ := Prod.mk.inj h
  have himage : imageOpen (past ++ [.text t]) = imageOpen past := imageOpen_concat past rfl
  have hcode := openCode?_concat past (e := .text t) rfl
  unfold pushText
  split
  · rename_i hopen
    rw [hi] at hopen
    have hheard : heard past (.text t) = [] := if_pos hopen
    rw [contextAfter_concat past rfl rfl hheard, h]
  · rename_i hopen
    have hheard : heard past (.text t) = [t] := by rw [heard, ← hi, if_neg hopen]
    rw [contextAfter, himage, hcode, hheard, ← hi, ← hc]
    cases hs : s.code with
    | none => simp [context, pushRun, hs]
    | some c => simp [context]

theorem context_step (h : s.context = contextAfter past) (e : Event) :
    (s.step e).context = contextAfter (past ++ [e]) := by
  cases e with
  | start tag => exact context_start h tag
  | finish tag => exact context_finish h tag
  | text t => exact context_pushText h t
  | rule =>
    rw [contextAfter_concat past rfl rfl rfl, ← h]
    exact context_pushBlock _ _
  | code _ | softBreak | hardBreak | other =>
    rw [contextAfter_concat past rfl rfl rfl, ← h]
    rfl

/-- **After any events the importer knows what is open.** -/
theorem context_run (events : List Event) :
    (({} : Importer).run events).context = contextAfter events := by
  induction events using List.reverseRecOn with
  | nil => rfl
  | append_singleton past e ih =>
    rw [run_append]
    exact context_step ih e

end Importer
end RichText.Markdown

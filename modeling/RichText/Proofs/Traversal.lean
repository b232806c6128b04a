import RichText.Html.Render
import RichText.Mobiledoc.Render
import RichText.Proofs.Emission

/-!
# Visits with missing entries

A visit does two kinds of things: it enters a node, and it pushes an opcode. `Visitor.moments` lists
them in order, by recursion on the document and without regard to failure; a node without an entry
is entered, and nothing follows from it.

**Replay.** The outcome of a visit is read off its moments (`Follows.replays`): opcodes are appended
one after the other, up to the first node entered that has no entry.

**Completion.** `Visitor.completedBy` gives a visitor the entries that it lacks. Its moments are
those of the visitor up to a node that has no entry there (`Agree`).

**The simulation.** `Follows` says both of a visit. It passes from children to parents, so there is
one line for each kind of node.

Main result: `visitAll_completedBy`.
-/

namespace RichText

/-- One thing that a visit does. -/
inductive Moment where
  | enter (n : Node)
  | push (o : Opcode)
deriving DecidableEq

namespace Moment

/-- The opcode that is pushed, if it is one. -/
def opcode? : Moment → Option Opcode
  | enter _ => none
  | push o => some o

/-- The opcodes pushed, in order. -/
def pushed (ms : List Moment) : List Opcode := ms.filterMap opcode?

/-- Every node entered is of a kind that is handled. -/
def Handled (handled : NodeType → Bool) (ms : List Moment) : Prop :=
  ∀ n, enter n ∈ ms → handled n.type = true

/-- What a visit does to the opcodes by its moments: it goes on until it enters a node of a kind
that is not handled. -/
def replay (handled : NodeType → Bool) : List Moment → Visit
  | [], ops => .ok ops
  | enter n :: rest, ops =>
    if handled n.type then replay handled rest ops else .failed (.unknownNodeType n.type) ops
  | push o :: rest, ops => replay handled rest (ops.push o)

/-- The moments are the same up to a node of a kind that is not handled, or throughout. -/
inductive Agree (handled : NodeType → Bool) : List Moment → List Moment → Prop
  | same (ms : List Moment) : Agree handled ms ms
  | upTo (before : List Moment) {n : Node} (hn : handled n.type = false)
      (after after' : List Moment) :
      Agree handled (before ++ enter n :: after) (before ++ enter n :: after')

/-- The moments of a step, where `child` gives those of a child. -/
def ofStep {α : Type} (child : α → List Moment) : Step α → List Moment
  | .emit o => [push o]
  | .descend children => children.flatMap child

/-- The moments of a node: it is entered, and each part of its entry does what `part` gives. -/
def ofEntry {α β : Type} (part : β → List Moment) (toNode : α → Node) (f : Option (α → List β))
    (a : α) : List Moment :=
  enter (toNode a) :: match f with
    | some f => (f a).flatMap part
    | none => []

end Moment

namespace Visitor

open Moment

variable (v : Visitor)

/-- Whether the visitor has an entry for a kind of node. -/
def handles : NodeType → Bool
  | .post => v.post.isSome
  | .markupSection => v.markupSection.isSome
  | .listSection => v.listSection.isSome
  | .listItem => v.listItem.isSome
  | .imageSection => v.imageSection.isSome
  | .card => v.card.isSome
  | .marker => v.marker.isSome
  | .markup => v.markup.isSome

/-! ## Moments of a visit -/

/-- The moments of a markup. -/
def markupMoments : Markup → List Moment := ofEntry (fun o => [push o]) .markup v.markup

/-- The moments of a marker. -/
def markerMoments : Marker → List Moment := ofEntry (ofStep v.markupMoments) .marker v.marker

/-- The moments of a list item. -/
def itemMoments : ListItem → List Moment := ofEntry (ofStep v.markerMoments) .listItem v.listItem

/-- The moments of a block of marked-up text. -/
def markupSectionMoments : MarkupSection → List Moment :=
  ofEntry (ofStep v.markerMoments) .markupSection v.markupSection

/-- The moments of a list. -/
def listSectionMoments : ListSection → List Moment :=
  ofEntry (ofStep v.itemMoments) .listSection v.listSection

/-- The moments of an image. -/
def imageMoments : ImageSection → List Moment :=
  ofEntry (fun o => [push o]) .imageSection v.imageSection

/-- The moments of a card. -/
def cardMoments : Card → List Moment := ofEntry (fun o => [push o]) .card v.card

/-- The moments of a section. -/
def sectionMoments : Section → List Moment
  | .markup s => v.markupSectionMoments s
  | .list s => v.listSectionMoments s
  | .image s => v.imageMoments s
  | .card c => v.cardMoments c

/-- The moments of a post. -/
def postMoments : Post → List Moment := ofEntry (ofStep v.sectionMoments) .post v.post

/-- The moments of a node. -/
def moments : Node → List Moment
  | .post n => v.postMoments n
  | .markupSection n => v.markupSectionMoments n
  | .listSection n => v.listSectionMoments n
  | .listItem n => v.itemMoments n
  | .imageSection n => v.imageMoments n
  | .card n => v.cardMoments n
  | .marker n => v.markerMoments n
  | .markup n => v.markupMoments n

/-- The moments of nodes in order. -/
def traversal (ns : List Node) : List Moment := ns.flatMap v.moments

end Visitor

/-! ## Completion -/

/-- Entries for every kind of node. -/
structure Entries where
  post : Post → List (Step Section)
  markupSection : MarkupSection → List (Step Marker)
  listSection : ListSection → List (Step ListItem)
  listItem : ListItem → List (Step Marker)
  imageSection : ImageSection → List Opcode
  card : Card → List Opcode
  marker : Marker → List (Step Markup)
  markup : Markup → List Opcode

/-- The visitor with its own entries where it has one, and the given ones elsewhere. -/
def Visitor.completedBy (v : Visitor) (e : Entries) : Visitor where
  post := some (v.post.getD e.post)
  markupSection := some (v.markupSection.getD e.markupSection)
  listSection := some (v.listSection.getD e.listSection)
  listItem := some (v.listItem.getD e.listItem)
  imageSection := some (v.imageSection.getD e.imageSection)
  card := some (v.card.getD e.card)
  marker := some (v.marker.getD e.marker)
  markup := some (v.markup.getD e.markup)

theorem Visitor.handles_completedBy (v : Visitor) (e : Entries) (t : NodeType) :
    (v.completedBy e).handles t = true := by
  cases t <;> rfl

/-! ## Replay -/

namespace Moment

variable {handled : NodeType → Bool}

@[simp] theorem pushed_nil : pushed [] = [] := rfl

@[simp] theorem pushed_enter (n : Node) (ms : List Moment) : pushed (enter n :: ms) = pushed ms :=
  rfl

@[simp] theorem pushed_push (o : Opcode) (ms : List Moment) :
    pushed (push o :: ms) = o :: pushed ms := rfl

theorem handled_enter_cons {n : Node} {ms : List Moment} :
    Handled handled (enter n :: ms) ↔ handled n.type = true ∧ Handled handled ms := by
  simp [Handled]

theorem handled_push_cons {o : Opcode} {ms : List Moment} :
    Handled handled (push o :: ms) ↔ Handled handled ms := by
  simp [Handled]

theorem replay_append (a b : List Moment) (ops : Opcodes) :
    replay handled (a ++ b) ops = (replay handled a ops).andThen (replay handled b) := by
  induction a generalizing ops with
  | nil => rfl
  | cons m a ih =>
    cases m with
    | enter n =>
      rw [List.cons_append, replay, replay]
      split
      · exact ih ops
      · rfl
    | push o => exact ih (ops.push o)

/-- Where every node entered is handled, all opcodes are pushed. -/
theorem replay_of_handled {ms : List Moment} (h : Handled handled ms) (ops : Opcodes) :
    replay handled ms ops = .ok (ops ++ (pushed ms).toArray) := by
  induction ms generalizing ops with
  | nil => simp [replay]
  | cons m ms ih =>
    cases m with
    | enter n =>
      obtain ⟨hn, hms⟩ := handled_enter_cons.1 h
      rw [replay, if_pos hn, ih hms, pushed_enter]
    | push o =>
      rw [replay, ih (handled_push_cons.1 h), pushed_push]
      simp

/-- The first node entered that is not handled ends the visit. -/
theorem replay_of_not_handled {before : List Moment} (h : Handled handled before) {n : Node}
    (hn : handled n.type = false) (after : List Moment) (ops : Opcodes) :
    replay handled (before ++ enter n :: after) ops =
      .failed (.unknownNodeType n.type) (ops ++ (pushed before).toArray) := by
  rw [replay_append, replay_of_handled h, Outcome.andThen_ok, replay, hn]
  rfl

/-- What was there before is carried along in front. -/
theorem replay_prefixed (ms : List Moment) (ops ops' : Opcodes) :
    (replay handled ms (ops ++ ops')).state = ops ++ (replay handled ms ops').state ∧
      (replay handled ms (ops ++ ops')).error? = (replay handled ms ops').error? := by
  induction ms generalizing ops' with
  | nil => exact ⟨rfl, rfl⟩
  | cons m ms ih =>
    cases m with
    | enter n =>
      rw [replay, replay]
      split
      · exact ih ops'
      · exact ⟨rfl, rfl⟩
    | push o =>
      rw [replay, replay, Array.push_append]
      exact ih (ops'.push o)

theorem handled_or_exists_first (handled : NodeType → Bool) (ms : List Moment) :
    Handled handled ms ∨ ∃ before n after, ms = before ++ enter n :: after ∧
      Handled handled before ∧ handled n.type = false := by
  induction ms with
  | nil => exact .inl fun n hn => absurd hn List.not_mem_nil
  | cons m ms ih =>
    cases m with
    | enter n =>
      cases hn : handled n.type with
      | false => exact .inr ⟨[], n, ms, rfl, fun n hn => absurd hn List.not_mem_nil, hn⟩
      | true =>
        rcases ih with ih | ⟨before, n', after, rfl, hbefore, hn'⟩
        · exact .inl (handled_enter_cons.2 ⟨hn, ih⟩)
        · exact .inr ⟨enter n :: before, n', after, rfl, handled_enter_cons.2 ⟨hn, hbefore⟩, hn'⟩
    | push o =>
      rcases ih with ih | ⟨before, n, after, rfl, hbefore, hn⟩
      · exact .inl (handled_push_cons.2 ih)
      · exact .inr ⟨push o :: before, n, after, rfl, handled_push_cons.2 hbefore, hn⟩

/-! ## Agreement -/

theorem Agree.append {a a' b b' : List Moment} (ha : Agree handled a a')
    (hb : Agree handled b b') : Agree handled (a ++ b) (a' ++ b') := by
  cases ha with
  | same =>
    cases hb with
    | same => exact .same _
    | upTo before hn after after' =>
      rw [← List.append_assoc, ← List.append_assoc]
      exact .upTo (a ++ before) hn after after'
  | upTo before hn after after' =>
    rw [List.append_assoc, List.append_assoc]
    exact .upTo before hn (after ++ b) (after' ++ b')

/-- Moments that agree with such as enter only handled nodes are the same. -/
theorem Agree.eq {ms ms' : List Moment} (h : Agree handled ms ms') (hms : Handled handled ms) :
    ms' = ms := by
  cases h with
  | same => rfl
  | upTo before hn after after' =>
    have hentered := hms _ (List.mem_append_right before List.mem_cons_self)
    rw [hn] at hentered
    cases hentered

/-- Agreement reaches the first node that is not handled. -/
theorem Agree.exists_after {before after ms' : List Moment} {n : Node}
    (h : Agree handled (before ++ enter n :: after) ms') (hbefore : Handled handled before) :
    ∃ after', ms' = before ++ enter n :: after' := by
  generalize hms : before ++ enter n :: after = ms at h
  cases h with
  | same => exact ⟨after, hms.symm⟩
  | @upTo before₁ n₁ hn₁ after₁ after' =>
    rcases List.append_eq_append_iff.1 hms with ⟨c, rfl, hc⟩ | ⟨c, rfl, hc⟩
    · cases c with
      | nil =>
        obtain ⟨rfl, rfl⟩ : n = n₁ ∧ after = after₁ := by simpa using hc
        exact ⟨after', by simp⟩
      | cons m c =>
        obtain ⟨rfl, rfl⟩ := List.cons.inj hc
        exact ⟨c ++ enter n₁ :: after', by simp⟩
    · cases c with
      | nil =>
        obtain ⟨rfl, rfl⟩ : n₁ = n ∧ after₁ = after := by simpa using hc
        exact ⟨after', by simp⟩
      | cons m c =>
        -- the agreement cannot end before the first node that is not handled
        obtain ⟨rfl, -⟩ := List.cons.inj hc
        have hentered := hbefore n₁ (List.mem_append_right before₁ List.mem_cons_self)
        rw [hn₁] at hentered
        cases hentered

theorem Agree.flatMap {α : Type} {own full : α → List Moment}
    (h : ∀ a, Agree handled (own a) (full a)) (as : List α) :
    Agree handled (as.flatMap own) (as.flatMap full) := by
  induction as with
  | nil => exact .same []
  | cons a as ih => exact (h a).append ih

/-! ## Visits and their moments -/

/-- The visit is a replay of the moments `own`, which agree with the moments `full`. -/
structure Follows {α : Type} (handled : NodeType → Bool) (visit : α → Visit)
    (own full : α → List Moment) : Prop where
  replays : ∀ a ops, visit a ops = replay handled (own a) ops
  agree : ∀ a, Agree handled (own a) (full a)

section Follows

variable {α β : Type}

/-- Where every kind of node is handled, a visit never fails. -/
theorem Follows.emits {visit : α → Visit} {own full : α → List Moment}
    (h : Follows handled visit own full) (htotal : ∀ t, handled t = true) :
    Visit.Emits visit fun a => pushed (own a) := fun a ops =>
  (h.replays a ops).trans (replay_of_handled (fun n _ => htotal n.type) ops)

theorem Follows.each {visit : α → Visit} {own full : α → List Moment}
    (h : Follows handled visit own full) :
    Follows handled (Visit.each visit) (·.flatMap own) (·.flatMap full) where
  replays as ops := by
    induction as generalizing ops with
    | nil => rfl
    | cons a as ih =>
      rw [Visit.each, h.replays, List.flatMap_cons, replay_append]
      congr 1
      funext ops'
      exact ih ops'
  agree := Agree.flatMap h.agree

theorem Follows.steps {child : α → Visit} {own full : α → List Moment}
    (h : Follows handled child own full) :
    Follows handled (Visit.steps child) (·.flatMap (ofStep own)) (·.flatMap (ofStep full)) where
  replays ss ops := by
    induction ss generalizing ops with
    | nil => rfl
    | cons s ss ih =>
      cases s with
      | emit o => exact ih (ops.push o)
      | descend children =>
        rw [Visit.steps, h.each.replays, List.flatMap_cons, ofStep, replay_append]
        congr 1
        funext ops'
        exact ih ops'
  agree := Agree.flatMap fun
    | .emit o => .same [push o]
    | .descend children => h.each.agree children

/-- Pushing opcodes enters nothing. -/
theorem follows_emit :
    Follows handled Visit.emit (·.flatMap fun o => [push o]) (·.flatMap fun o => [push o]) where
  replays os ops := by
    induction os generalizing ops with
    | nil => simp [Visit.emit, replay]
    | cons o os ih =>
      show _ = replay handled (os.flatMap fun o => [push o]) (ops.push o)
      rw [← ih]
      simp [Visit.emit]
  agree os := .same _

/-- A node whose kind has an entry does what its parts do. Without one nothing but the completed
visit goes on. -/
theorem Follows.entry {run : List β → Visit} {own full : β → List Moment}
    (h : Follows handled run (·.flatMap own) (·.flatMap full)) (toNode : α → Node)
    (f : Option (α → List β)) (d : α → List β) {type : NodeType}
    (htype : ∀ a, (toNode a).type = type) (hf : handled type = f.isSome) :
    Follows handled (Visit.entry type (f.map (run ∘ ·))) (ofEntry own toNode f)
      (ofEntry full toNode (some (f.getD d))) where
  replays a ops := by
    cases f with
    | none =>
      have hn : handled (toNode a).type = false := by rw [htype, hf]; rfl
      rw [ofEntry, replay, hn, htype]
      rfl
    | some f =>
      have hn : handled (toNode a).type = true := by rw [htype, hf]; rfl
      rw [ofEntry, replay, if_pos hn]
      exact h.replays (f a) ops
  agree a := by
    cases f with
    | none => exact .upTo [] (by rw [htype, hf]; rfl) [] _
    | some f => exact (Agree.same [enter (toNode a)]).append (h.agree (f a))

end Follows

end Moment

/-! ## Every kind of node -/

namespace Visitor

open Moment

variable (v : Visitor) (e : Entries)

theorem follows_markup :
    Follows v.handles v.visitMarkup v.markupMoments (v.completedBy e).markupMoments :=
  follows_emit.entry .markup v.markup e.markup (fun _ => rfl) rfl

theorem follows_marker :
    Follows v.handles v.visitMarker v.markerMoments (v.completedBy e).markerMoments :=
  (v.follows_markup e).steps.entry .marker v.marker e.marker (fun _ => rfl) rfl

theorem follows_item :
    Follows v.handles v.visitItem v.itemMoments (v.completedBy e).itemMoments :=
  (v.follows_marker e).steps.entry .listItem v.listItem e.listItem (fun _ => rfl) rfl

theorem follows_markupSection :
    Follows v.handles v.visitMarkupSection v.markupSectionMoments
      (v.completedBy e).markupSectionMoments :=
  (v.follows_marker e).steps.entry .markupSection v.markupSection e.markupSection (fun _ => rfl) rfl

theorem follows_listSection :
    Follows v.handles v.visitListSection v.listSectionMoments
      (v.completedBy e).listSectionMoments :=
  (v.follows_item e).steps.entry .listSection v.listSection e.listSection (fun _ => rfl) rfl

theorem follows_image :
    Follows v.handles v.visitImage v.imageMoments (v.completedBy e).imageMoments :=
  follows_emit.entry .imageSection v.imageSection e.imageSection (fun _ => rfl) rfl

theorem follows_card : Follows v.handles v.visitCard v.cardMoments (v.completedBy e).cardMoments :=
  follows_emit.entry .card v.card e.card (fun _ => rfl) rfl

theorem follows_section :
    Follows v.handles v.visitSection v.sectionMoments (v.completedBy e).sectionMoments where
  replays
    | .markup s => (v.follows_markupSection e).replays s
    | .list s => (v.follows_listSection e).replays s
    | .image s => (v.follows_image e).replays s
    | .card c => (v.follows_card e).replays c
  agree
    | .markup s => (v.follows_markupSection e).agree s
    | .list s => (v.follows_listSection e).agree s
    | .image s => (v.follows_image e).agree s
    | .card c => (v.follows_card e).agree c

theorem follows_post : Follows v.handles v.visitPost v.postMoments (v.completedBy e).postMoments :=
  (v.follows_section e).steps.entry .post v.post e.post (fun _ => rfl) rfl

theorem follows_visit : Follows v.handles v.visit v.moments (v.completedBy e).moments where
  replays
    | .post n => (v.follows_post e).replays n
    | .markupSection n => (v.follows_markupSection e).replays n
    | .listSection n => (v.follows_listSection e).replays n
    | .listItem n => (v.follows_item e).replays n
    | .imageSection n => (v.follows_image e).replays n
    | .card n => (v.follows_card e).replays n
    | .marker n => (v.follows_marker e).replays n
    | .markup n => (v.follows_markup e).replays n
  agree
    | .post n => (v.follows_post e).agree n
    | .markupSection n => (v.follows_markupSection e).agree n
    | .listSection n => (v.follows_listSection e).agree n
    | .listItem n => (v.follows_item e).agree n
    | .imageSection n => (v.follows_image e).agree n
    | .card n => (v.follows_card e).agree n
    | .marker n => (v.follows_marker e).agree n
    | .markup n => (v.follows_markup e).agree n

theorem follows_visitAll :
    Follows v.handles v.visitAll v.traversal (v.completedBy e).traversal :=
  (v.follows_visit e).each

theorem visitAll_append (ns ns' : List Node) (ops : Opcodes) :
    v.visitAll (ns ++ ns') ops = (v.visitAll ns ops).andThen (v.visitAll ns') := by
  induction ns generalizing ops with
  | nil => rfl
  | cons n ns ih =>
    show (v.visit n ops).andThen (v.visitAll (ns ++ ns')) =
      ((v.visit n ops).andThen (v.visitAll ns)).andThen (v.visitAll ns')
    rw [Outcome.andThen_assoc]
    congr 1
    funext ops'
    exact ih ops'

/-- **Visits with missing entries.** Let a visitor lack entries for some kinds of nodes, and let `e`
complete it. Nodes are visited one list after the other, and what was pushed before only stands in
front. The completed visitor pushes all its opcodes. If every node that the visitor enters is of a
kind that it handles, then it does the same. If not, then it fails at the first that is not, with
exactly the opcodes that the completed visitor pushes before it enters that node. The visitors of
both backends lack nothing and do not fail. -/
theorem visitAll_completedBy (v : Visitor) (e : Entries) (ns : List Node) (ops : Opcodes) :
    ((v.visitAll ns ops).state = ops ++ (v.visitAll ns #[]).state ∧
      (v.visitAll ns ops).error? = (v.visitAll ns #[]).error?) ∧
    (∀ ns', v.visitAll (ns ++ ns') ops = (v.visitAll ns ops).andThen (v.visitAll ns')) ∧
    (v.completedBy e).visitAll ns ops =
      .ok (ops ++ (pushed ((v.completedBy e).traversal ns)).toArray) ∧
    (Handled v.handles (v.traversal ns) ∧
        v.visitAll ns ops = (v.completedBy e).visitAll ns ops ∨
      ∃ before n after after',
        v.traversal ns = before ++ .enter n :: after ∧
        (v.completedBy e).traversal ns = before ++ .enter n :: after' ∧
        Handled v.handles before ∧ v.handles n.type = false ∧
        v.visitAll ns ops =
          .failed (.unknownNodeType n.type) (ops ++ (pushed before).toArray)) ∧
    ∀ n, (∃ ops', Html.visitor.visit n ops = .ok ops') ∧
      ∃ ops', Mobiledoc.visitor.visit n ops = .ok ops' := by
  have hfollows := v.follows_visitAll e
  have hagree := hfollows.agree ns
  have hfull : (v.completedBy e).visitAll ns ops =
      .ok (ops ++ (pushed ((v.completedBy e).traversal ns)).toArray) :=
    ((v.completedBy e).follows_visitAll e).emits (v.handles_completedBy e) ns ops
  refine ⟨?_, fun ns' => v.visitAll_append ns ns' ops, hfull, ?_, fun n => ⟨?_, ?_⟩⟩
  · rw [hfollows.replays, hfollows.replays]
    simpa using @replay_prefixed v.handles (v.traversal ns) ops #[]
  · rcases handled_or_exists_first v.handles (v.traversal ns) with
      hall | ⟨before, n, after, hns, hbefore, hn⟩
    · refine .inl ⟨hall, ?_⟩
      rw [hfull, hagree.eq hall, hfollows.replays, replay_of_handled hall]
    · rw [hns] at hagree
      obtain ⟨after', hafter'⟩ := hagree.exists_after hbefore
      refine .inr ⟨before, n, after, after', hns, hafter', hbefore, hn, ?_⟩
      rw [hfollows.replays, hns, replay_of_not_handled hbefore hn]
  · have htotal : ∀ t, Html.visitor.handles t = true := fun t => by cases t <;> rfl
    exact ⟨_, (Html.visitor.follows_visit e).emits htotal n ops⟩
  · have htotal : ∀ t, Mobiledoc.visitor.handles t = true := fun t => by cases t <;> rfl
    exact ⟨_, (Mobiledoc.visitor.follows_visit e).emits htotal n ops⟩

/-- Without an entry for items, a visit of a list stops after the start of its element. -/
example :
    let v : Visitor := { Html.visitor with listItem := none }
    v.visitAll [.imageSection ⟨"a.png"⟩, .listSection ⟨"ul", [⟨[]⟩]⟩, .card ⟨"hr", .null⟩] #[] =
      .failed (.unknownNodeType .listItem)
        #[.unary "image" (.str "a.png"), .unary "openElement" (.str "ul")] := by
  rfl

end Visitor

end RichText

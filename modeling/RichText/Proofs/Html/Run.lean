import RichText.Document.Decoding
import RichText.Html.Element
import RichText.Html.Render
import RichText.Proofs.Document.Names
import RichText.Proofs.Emission

/-!
# What the opcodes of a document write

The HTML target runs a flat stream with one stack of open markups. This file says, by recursion on
the document, which faults it finds on the way and which tokens it writes if it finds none.

**Faults.** `nodeFaults` lists everything that is wrong with a node, in document order: the tag of a
section, the tag and the attribute names of each markup, a marker that closes more markups than are
open, and markups that are open at the end of a block or an item.

**Tokens.** `nodeTokens` is the flat form of the HTML of a node.

**The simulation.** `run_markers` is the invariant: between two markers the stack of the target
holds the tags of the markups that are open there. Every block and every item starts and ends with
an empty stack, so nothing leaks from one to the next.

Main result: `render_eq`.
-/

namespace RichText.Html

/-! ## Faults of a document -/

/-- What can be wrong with a document. -/
inductive Fault where
  | sectionTag (tag : String)
  | markupTag (tag : String)
  | attributeName (name : String)
  | closeCount (count : Nat)
  | leftOpen

/-- The error by which the target reports a fault. -/
def Fault.error : Fault → Error
  | sectionTag tag => .invalidParam 0 .sectionTag tag
  | markupTag tag => .invalidParam 0 .markupTag tag
  | attributeName name => .invalidParam 1 .attributeNames name
  | closeCount count => .invalidParam 0 .closeCount (toString count)
  | leftOpen => .misplaced "closeElement" .openMarkups

/-- Whether an element may have the tag. -/
def isElementTag (tag : String) : Bool :=
  tag == "li" || isMarkupSectionTag tag || isListSectionTag tag

/-- The fault `f`, unless the condition holds. -/
def check (holds : Bool) (f : Fault) : List Fault := if holds then [] else [f]

@[simp] theorem check_true (f : Fault) : check true f = [] := rfl

@[simp] theorem check_eq_nil {holds : Bool} {f : Fault} : check holds f = [] ↔ holds = true := by
  cases holds <;> simp [check]

theorem mem_check {holds : Bool} {f g : Fault} : f ∈ check holds g ↔ holds = false ∧ f = g := by
  cases holds <;> simp [check]

/-- The faults of the tag of an element. -/
def tagFaults (tag : String) : List Fault := check (isElementTag tag) (.sectionTag tag)

/-- The faults of attributes, all of which are in their names. -/
def attributeFaults (es : List (String × String)) : List Fault :=
  es.flatMap fun e => check (isAttributeName e.1) (.attributeName e.1)

/-- The faults of a markup: its tag first, then its attribute names. -/
def markupFaults (m : Markup) : List Fault :=
  check (isMarkupTag m.tagName) (.markupTag m.tagName) ++ attributeFaults m.attributes.entries

/-- The faults of a marker before which `depth` markups are open: those of the markups it opens,
then that of the number of markups it closes. -/
def markerFaults (depth : Nat) (m : Marker) : List Fault :=
  m.openedMarkups.flatMap markupFaults ++
    check (m.closedCount ≤ depth + m.openedMarkups.length) (.closeCount m.closedCount)

/-- The faults of the markers of a block or an item, the last of which must leave nothing open. -/
def markersFaults (depth : Nat) : List Marker → List Fault
  | [] => check (depth = 0) .leftOpen
  | m :: rest =>
    markerFaults depth m ++ markersFaults (depth + m.openedMarkups.length - m.closedCount) rest

/-- The faults of a section. -/
def sectionFaults : Section → List Fault
  | .markup s => tagFaults s.tagName ++ markersFaults 0 s.markers
  | .list s => tagFaults s.tagName ++ s.items.flatMap fun i => markersFaults 0 i.markers
  | .image _ => []
  | .card _ => []

/-- The faults of a node, in document order. A marker on its own may leave markups open. -/
def nodeFaults : Node → List Fault
  | .post p => p.sections.flatMap sectionFaults
  | .markupSection s => sectionFaults (.markup s)
  | .listSection s => sectionFaults (.list s)
  | .listItem i => markersFaults 0 i.markers
  | .imageSection _ => []
  | .card _ => []
  | .marker m => markerFaults 0 m
  | .markup m => markupFaults m

/-! ## Tokens of a document -/

/-- The tag and the attributes of a markup. -/
def openTag (m : Markup) : OpenTag := (m.tagName, m.attributes.entries)

/-- The markups that a marker closes, where `before` are open before it, outermost first. -/
def closedBy (m : Marker) (before : List Markup) : List Markup :=
  (m.inside before).drop ((m.inside before).length - m.closedCount)

/-- The tokens of a marker. -/
def markerTokens (before : List Markup) (m : Marker) : List Token :=
  m.openedMarkups.map (fun u => .start u.tagName u.attributes.entries) ++
    .text m.value :: (closedBy m before).reverse.map fun u => .finish u.tagName

/-- The tokens of markers. -/
def markersTokens (before : List Markup) : List Marker → List Token
  | [] => []
  | m :: rest => markerTokens before m ++ markersTokens (m.after before) rest

/-- The tokens of an element with the tokens `inner` inside. -/
def elementTokens (tag : String) (inner : List Token) : List Token :=
  .start tag [] :: inner ++ [.finish tag]

/-- The tokens of a list item. -/
def itemTokens (i : ListItem) : List Token := elementTokens "li" (markersTokens [] i.markers)

/-- The tokens of a section. -/
def sectionTokens : Section → List Token
  | .markup s => elementTokens s.tagName (markersTokens [] s.markers)
  | .list s => elementTokens s.tagName (s.items.flatMap itemTokens)
  | .image s => [.start "img" [("src", s.src)]]
  | .card c => [.start "div" [("data-card", c.name)], .finish "div"]

/-- The tokens of a node. -/
def nodeTokens : Node → List Token
  | .post p => p.sections.flatMap sectionTokens
  | .markupSection s => sectionTokens (.markup s)
  | .listSection s => sectionTokens (.list s)
  | .listItem i => itemTokens i
  | .imageSection s => sectionTokens (.image s)
  | .card c => sectionTokens (.card c)
  | .marker m => markerTokens [] m
  | .markup m => [.start m.tagName m.attributes.entries]

/-- A token as it is written. -/
def Token.html : Token → String
  | .start tag attributes => startTag tag attributes
  | .finish tag => endTag tag
  | .text s => escape s

/-- Tokens as they are written. -/
def htmlOf (ts : List Token) : String := String.join (ts.map Token.html)

theorem htmlOf_append (ts us : List Token) : htmlOf (ts ++ us) = htmlOf ts ++ htmlOf us := by
  rw [htmlOf, List.map_append, String.join_append]
  rfl

theorem htmlOf_singleton (t : Token) : htmlOf [t] = t.html := by
  apply String.toList_injective
  simp [htmlOf]

/-! ## The opcodes of a node -/

/-- The opcodes of a markup. -/
def markupOpcodes (m : Markup) : List Opcode :=
  [.binary "openMarkup" (.str m.tagName) (.strings m.sortedAttributes)]

/-- The opcodes of a marker. -/
def markerOpcodes (m : Marker) : List Opcode :=
  m.openedMarkups.flatMap markupOpcodes ++ .unary "text" (.str m.value) ::
    if 0 < m.closedCount then [.unary "closeMarkups" (.nat m.closedCount)] else []

/-- The opcodes of an element with the opcodes `inner` inside. -/
def elementOpcodes (tag : String) (inner : List Opcode) : List Opcode :=
  .unary "openElement" (.str tag) :: inner ++ [.unary "closeElement" (.str tag)]

/-- The opcodes of a list item. -/
def itemOpcodes (i : ListItem) : List Opcode :=
  elementOpcodes "li" (i.markers.flatMap markerOpcodes)

/-- The opcodes of a section. -/
def sectionOpcodes : Section → List Opcode
  | .markup s => elementOpcodes s.tagName (s.markers.flatMap markerOpcodes)
  | .list s => elementOpcodes s.tagName (s.items.flatMap itemOpcodes)
  | .image s => [.unary "image" (.str s.src)]
  | .card c => [.binary "card" (.str c.name) c.payload]

/-- The opcodes of a node. -/
def nodeOpcodes : Node → List Opcode
  | .post p => p.sections.flatMap sectionOpcodes
  | .markupSection s => sectionOpcodes (.markup s)
  | .listSection s => sectionOpcodes (.list s)
  | .listItem i => itemOpcodes i
  | .imageSection s => sectionOpcodes (.image s)
  | .card c => sectionOpcodes (.card c)
  | .marker m => markerOpcodes m
  | .markup m => markupOpcodes m

theorem element_opcodes {α : Type} (emitted : α → List Opcode) (tag : String) (children : List α) :
    (element tag children).flatMap (Visit.stepOpcodes emitted) =
      elementOpcodes tag (children.flatMap emitted) := by
  simp [element, elementOpcodes, Visit.stepOpcodes]

theorem emits_markup : Visit.Emits visitor.visitMarkup markupOpcodes := Visit.emits_emit _

theorem emits_marker : Visit.Emits visitor.visitMarker markerOpcodes := fun m ops => by
  have hsteps : (markerSteps m).flatMap (Visit.stepOpcodes markupOpcodes) = markerOpcodes m := by
    by_cases h : 0 < m.closedCount <;>
      simp [markerSteps, markerOpcodes, Visit.stepOpcodes, h]
  rw [← hsteps]
  exact emits_markup.steps _ ops

theorem emits_item : Visit.Emits visitor.visitItem itemOpcodes := fun i ops => by
  rw [itemOpcodes, ← element_opcodes]
  exact emits_marker.steps _ ops

theorem emits_section : Visit.Emits visitor.visitSection sectionOpcodes := fun s ops => by
  cases s with
  | markup s =>
    rw [sectionOpcodes, ← element_opcodes]
    exact emits_marker.steps _ ops
  | list s =>
    rw [sectionOpcodes, ← element_opcodes]
    exact emits_item.steps _ ops
  | image s => rfl
  | card c => rfl

/-- Visiting never fails, for any node. -/
theorem emits_node : Visit.Emits visitor.visit nodeOpcodes := fun n ops => by
  cases n with
  | post p =>
    have hsteps : nodeOpcodes (.post p) =
        [Step.descend p.sections].flatMap (Visit.stepOpcodes sectionOpcodes) := by
      simp [nodeOpcodes, Visit.stepOpcodes]
    rw [hsteps]
    exact emits_section.steps _ ops
  | markupSection s => exact emits_section (.markup s) ops
  | listSection s => exact emits_section (.list s) ops
  | listItem i => exact emits_item i ops
  | imageSection s => exact emits_section (.image s) ops
  | card c => exact emits_section (.card c) ops
  | marker m => exact emits_marker m ops
  | markup m => exact emits_markup m ops

/-! ## Single opcodes -/

section Steps

variable (index : Nat) (w : Writer)

/-- The target with tokens written at its end. -/
def Writer.put (w : Writer) (ts : List Token) : Writer := w.write (htmlOf ts)

theorem Writer.put_singleton (t : Token) : w.put [t] = w.write t.html := by
  rw [put, htmlOf_singleton]

theorem elementTag_str (tag : String) :
    elementTag (.str tag) =
      if isElementTag tag then .ok tag else .error (.invalidParam 0 .sectionTag tag) := by
  show (require (isElementTag tag) 0 .sectionTag tag >>= fun _ => pure tag) = _
  rw [require]
  split <;> rfl

theorem meets_openElement (tag : String) :
    (Writer.handlers.step index (.unary "openElement" (.str tag)) w).Meets
      (w.put [.start tag []]) ((tagFaults tag).map Fault.error) := by
  show (Outcome.given w (elementTag (.str tag)) _).Meets _ _
  rw [elementTag_str, tagFaults, Writer.put_singleton]
  cases isElementTag tag with
  | true => rfl
  | false => exact ⟨w, rfl⟩

/-- An element ends where its tag is known, since it started, and no markup is open. -/
theorem meets_closeElement {tag : String} (htag : tagFaults tag = []) :
    (Writer.handlers.step index (.unary "closeElement" (.str tag)) w).Meets
      (w.put [.finish tag])
      ((check (w.openMarkups.length = 0) Fault.leftOpen).map Fault.error) := by
  have hknown : isElementTag tag = true := check_eq_nil.1 htag
  show (Outcome.given w (elementTag (.str tag)) _).Meets _ _
  rw [elementTag_str, if_pos hknown, Writer.put_singleton]
  show Outcome.Meets (if w.openMarkups.isEmpty then _ else _) _ _
  cases hopen : w.openMarkups with
  | nil => rfl
  | cons u us => exact ⟨w, rfl⟩

/-- The first fault of attributes is that of the first name that is not plain. -/
theorem head?_attributeFaults (es : List (String × String)) :
    (attributeFaults es).head? =
      (es.find? fun e => !isAttributeName e.1).map fun e => .attributeName e.1 := by
  induction es with
  | nil => rfl
  | cons e es ih =>
    rw [attributeFaults, List.flatMap_cons, List.find?_cons]
    cases isAttributeName e.1 with
    | true => exact ih
    | false => rfl

theorem markupAttributes_sorted (m : Markup) :
    markupAttributes (.strings m.sortedAttributes) =
      match attributeFaults m.attributes.entries with
      | [] => .ok m.attributes.entries
      | f :: _ => .error f.error := by
  have hhead := head?_attributeFaults m.attributes.entries
  simp only [markupAttributes, Param.pairs_sortedAttributes, bind, Except.bind]
  cases hf : m.attributes.entries.find? fun e => !isAttributeName e.1 with
  | none =>
    rw [hf, Option.map_none, List.head?_eq_none_iff] at hhead
    rw [hhead]
    rfl
  | some e =>
    rw [hf, Option.map_some] at hhead
    obtain ⟨rest, hrest⟩ := List.head?_eq_some_iff.1 hhead
    rw [hrest]
    rfl

/-- A markup is checked, tag before names, and then it is open. -/
theorem meets_openMarkup (m : Markup) :
    (Writer.handlers.step index
      (.binary "openMarkup" (.str m.tagName) (.strings m.sortedAttributes)) w).Meets
      ⟨w.html ++ (Token.start m.tagName m.attributes.entries).html, m.tagName :: w.openMarkups⟩
      ((markupFaults m).map Fault.error) := by
  have htag : markupTag (.str m.tagName) = if isMarkupTag m.tagName then .ok m.tagName
      else .error (.invalidParam 0 .markupTag m.tagName) := by
    show (require (isMarkupTag m.tagName) 0 .markupTag m.tagName >>= fun _ => pure m.tagName) = _
    rw [require]
    split <;> rfl
  show (Outcome.given w (markupTag (.str m.tagName)) fun tag =>
    .given w (markupAttributes (.strings m.sortedAttributes)) fun attributes => _).Meets _ _
  rw [htag, markupAttributes_sorted, markupFaults]
  cases isMarkupTag m.tagName with
  | false => exact ⟨w, rfl⟩
  | true =>
    rw [check_true, List.nil_append]
    cases attributeFaults m.attributes.entries with
    | nil => rfl
    | cons f fs => exact ⟨w, rfl⟩

theorem meets_text (s : String) :
    (Writer.handlers.step index (.unary "text" (.str s)) w).Meets (w.put [.text s]) [] := by
  rw [Writer.put_singleton]
  rfl

theorem meets_closeMarkups (n : Nat) :
    (Writer.handlers.step index (.unary "closeMarkups" (.nat n)) w).Meets
      ⟨w.html ++ htmlOf ((w.openMarkups.take n).map .finish), w.openMarkups.drop n⟩
      ((check (n ≤ w.openMarkups.length) (.closeCount n)).map Fault.error) := by
  show Outcome.Meets (if n ≤ w.openMarkups.length then _ else _) _ _
  by_cases h : n ≤ w.openMarkups.length
  · rw [if_pos h, decide_eq_true h, htmlOf, List.map_map]
    rfl
  · rw [if_neg h, decide_eq_false h]
    exact ⟨w, rfl⟩

theorem meets_image (s : ImageSection) :
    (Writer.handlers.step index (.unary "image" (.str s.src)) w).Meets
      (w.put [.start "img" [("src", s.src)]]) [] := by
  rw [Writer.put_singleton]
  rfl

theorem meets_card (c : Card) :
    (Writer.handlers.step index (.binary "card" (.str c.name) c.payload) w).Meets
      (w.put [.start "div" [("data-card", c.name)], .finish "div"]) [] := by
  rw [Writer.put, ← List.singleton_append, htmlOf_append, htmlOf_singleton, htmlOf_singleton]
  rfl

end Steps

/-! ## Markers -/

/-- The tags of open markups, as the target stacks them: innermost first. -/
def tagsOf (stack : List Markup) : List String := (stack.map (·.tagName)).reverse

/-- The target where the markups of `stack` are open, outermost first. -/
def stateAt (html : String) (stack : List Markup) : Writer := ⟨html, tagsOf stack⟩

@[simp] theorem length_tagsOf (stack : List Markup) : (tagsOf stack).length = stack.length := by
  simp [tagsOf]

theorem tagsOf_concat (stack : List Markup) (m : Markup) :
    tagsOf (stack ++ [m]) = m.tagName :: tagsOf stack := by
  simp [tagsOf]

theorem run_openings (us stack : List Markup) (html : String) (index : Nat) :
    (Writer.handlers.runFrom index (us.flatMap markupOpcodes) (stateAt html stack)).Meets
      (stateAt (html ++ htmlOf (us.map fun u => .start u.tagName u.attributes.entries))
        (stack ++ us))
      ((us.flatMap markupFaults).map Fault.error) := by
  induction us generalizing stack html index with
  | nil =>
    show Outcome.ok _ = Outcome.ok _
    rw [List.append_nil, List.map_nil, htmlOf, List.map_nil]
    simp
  | cons u us ih =>
    -- the target stacks innermost first, so the markup goes in front of the tags
    have hone := meets_openMarkup index (stateAt html stack) u
    have hstate : (⟨html ++ (Token.start u.tagName u.attributes.entries).html,
        u.tagName :: tagsOf stack⟩ : Writer) =
          stateAt (html ++ htmlOf [.start u.tagName u.attributes.entries]) (stack ++ [u]) := by
      rw [stateAt, tagsOf_concat, htmlOf_singleton]
    rw [List.flatMap_cons, List.flatMap_cons, List.map_append]
    refine Outcome.Meets.andThen hone fun _ => ?_
    have hrest := ih (stack ++ [u]) (html ++ htmlOf [.start u.tagName u.attributes.entries])
      (index + 1)
    rw [String.append_assoc, ← htmlOf_append, List.append_assoc] at hrest
    exact hstate ▸ hrest

/-- What a marker closes and what it leaves open. -/
theorem take_drop_tagsOf (m : Marker) (before : List Markup) :
    (tagsOf (m.inside before)).take m.closedCount =
        (closedBy m before).reverse.map (·.tagName) ∧
      (tagsOf (m.inside before)).drop m.closedCount = tagsOf (m.after before) := by
  constructor
  · simp [tagsOf, closedBy, List.take_reverse]
  · simp [tagsOf, Marker.after, List.drop_reverse]

/-- What a marker closes; it has no opcode for closing nothing. -/
theorem run_closing (m : Marker) (before : List Markup) (html : String) (index : Nat) :
    (Writer.handlers.runFrom index
      (if 0 < m.closedCount then [.unary "closeMarkups" (.nat m.closedCount)] else [])
      (stateAt html (m.inside before))).Meets
      (stateAt (html ++ htmlOf ((closedBy m before).reverse.map fun u => .finish u.tagName))
        (m.after before))
      ((check (m.closedCount ≤ before.length + m.openedMarkups.length)
        (.closeCount m.closedCount)).map Fault.error) := by
  by_cases h : 0 < m.closedCount
  · rw [if_pos h, HandlerTable.runFrom_singleton]
    have hclose := meets_closeMarkups index (stateAt html (m.inside before)) m.closedCount
    obtain ⟨htake, hdrop⟩ := take_drop_tagsOf m before
    have hlength : (tagsOf (m.inside before)).length = before.length + m.openedMarkups.length := by
      rw [length_tagsOf, Marker.inside, List.length_append]
    simp only [stateAt, htake, hdrop, hlength, List.map_map] at hclose
    exact hclose
  · have hzero : m.closedCount = 0 := by omega
    have hclosed : closedBy m before = [] := by
      rw [closedBy, hzero, Nat.sub_zero, List.drop_length]
    have hafter : m.after before = m.inside before := by
      rw [Marker.after, hzero, Nat.sub_zero, List.take_length]
    rw [if_neg h, hclosed, hafter, hzero]
    show Outcome.ok _ = Outcome.ok _
    simp [htmlOf]

/-- A marker runs from the markups open before it to those open after it. -/
theorem run_marker (m : Marker) (before : List Markup) (html : String) (index : Nat) :
    (Writer.handlers.runFrom index (markerOpcodes m) (stateAt html before)).Meets
      (stateAt (html ++ htmlOf (markerTokens before m)) (m.after before))
      ((markerFaults before.length m).map Fault.error) := by
  rw [markerOpcodes, HandlerTable.runFrom_append, markerFaults, List.map_append, markerTokens,
    htmlOf_append, ← String.append_assoc]
  refine (run_openings m.openedMarkups before html index).andThen fun _ => ?_
  have htext := meets_text (index + (m.openedMarkups.flatMap markupOpcodes).length)
    (stateAt (html ++ htmlOf (m.openedMarkups.map fun u => .start u.tagName u.attributes.entries))
      (m.inside before)) m.value
  rw [← List.singleton_append (x := Token.text m.value), htmlOf_append, ← String.append_assoc]
  exact htext.andThen fun _ => run_closing m before _ _

/-- **The stack is the markups that are open.** Between two markers the target holds the tags of the
markups open there, and the element ends only if that is none. -/
theorem run_markers {tag : String} (htag : tagFaults tag = []) (ms : List Marker)
    (before : List Markup) (html : String) (index : Nat) :
    (Writer.handlers.runFrom index
      (ms.flatMap markerOpcodes ++ [.unary "closeElement" (.str tag)]) (stateAt html before)).Meets
      (stateAt (html ++ htmlOf (markersTokens before ms ++ [.finish tag])) [])
      ((markersFaults before.length ms).map Fault.error) := by
  induction ms generalizing before html index with
  | nil =>
    have hclose := meets_closeElement index (stateAt html before) htag
    rw [List.flatMap_nil, List.nil_append, HandlerTable.runFrom_singleton]
    cases before with
    | nil => exact hclose
    | cons u us =>
      -- a markup is left open: the fault decides, and the state reached does not matter
      simp only [stateAt, length_tagsOf, List.length_cons] at hclose
      exact hclose
  | cons m ms ih =>
    have hrest := ih (m.after before) (html ++ htmlOf (markerTokens before m))
    rw [List.flatMap_cons, List.append_assoc, HandlerTable.runFrom_append, markersFaults,
      List.map_append, markersTokens, List.append_assoc, htmlOf_append, ← String.append_assoc]
    rw [Marker.length_after] at hrest
    exact (run_marker m before html index).andThen fun _ => hrest _

/-! ## Blocks -/

/-- Opcodes that start and end with no markup open, and write the tokens `ts` unless there are
faults. -/
def Writes (ops : List Opcode) (ts : List Token) (faults : List Fault) : Prop :=
  ∀ html index, (Writer.handlers.runFrom index ops (stateAt html [])).Meets
    (stateAt (html ++ htmlOf ts) []) (faults.map Fault.error)

theorem writes_nil : Writes [] [] [] := fun html _ => by
  show Outcome.ok _ = Outcome.ok _
  simp [htmlOf]

theorem Writes.append {ops ops' : List Opcode} {ts ts' : List Token} {fs fs' : List Fault}
    (h : Writes ops ts fs) (h' : fs = [] → Writes ops' ts' fs') :
    Writes (ops ++ ops') (ts ++ ts') (fs ++ fs') := fun html index => by
  rw [HandlerTable.runFrom_append, htmlOf_append, ← String.append_assoc, List.map_append]
  exact (h html index).andThen fun hfs => h' (List.map_eq_nil_iff.1 hfs) _ _

theorem writes_flatMap {α : Type} {emitted : α → List Opcode} {tokens : α → List Token}
    {faults : α → List Fault} (h : ∀ a, Writes (emitted a) (tokens a) (faults a)) (as : List α) :
    Writes (as.flatMap emitted) (as.flatMap tokens) (as.flatMap faults) := by
  induction as with
  | nil => exact writes_nil
  | cons a as ih =>
    rw [List.flatMap_cons, List.flatMap_cons, List.flatMap_cons]
    exact (h a).append fun _ => ih

theorem writes_openElement (tag : String) :
    Writes [.unary "openElement" (.str tag)] [.start tag []] (tagFaults tag) :=
  fun html index => by
    rw [HandlerTable.runFrom_singleton]
    exact meets_openElement index (stateAt html []) tag

/-- An element whose inside and end tag write `ts` and the end tag. -/
theorem writes_element {tag : String} {inner : List Opcode} {ts : List Token} {fs : List Fault}
    (h : tagFaults tag = [] →
      Writes (inner ++ [.unary "closeElement" (.str tag)]) (ts ++ [.finish tag]) fs) :
    Writes (elementOpcodes tag inner) (elementTokens tag ts) (tagFaults tag ++ fs) :=
  (writes_openElement tag).append h

theorem writes_markers (tag : String) (ms : List Marker) :
    Writes (elementOpcodes tag (ms.flatMap markerOpcodes))
      (elementTokens tag (markersTokens [] ms)) (tagFaults tag ++ markersFaults 0 ms) :=
  writes_element fun htag html index => run_markers htag ms [] html index

theorem writes_item (i : ListItem) :
    Writes (itemOpcodes i) (itemTokens i) (markersFaults 0 i.markers) :=
  writes_markers "li" i.markers

theorem writes_section (s : Section) :
    Writes (sectionOpcodes s) (sectionTokens s) (sectionFaults s) := by
  cases s with
  | markup s => exact writes_markers s.tagName s.markers
  | list s =>
    refine writes_element fun htag => ?_
    have hclose : Writes [.unary "closeElement" (.str s.tagName)] [.finish s.tagName] [] :=
      fun html index => by
        rw [HandlerTable.runFrom_singleton]
        exact meets_closeElement index (stateAt html []) htag
    have hitems := (writes_flatMap writes_item s.items).append fun _ => hclose
    rw [List.append_nil] at hitems
    exact hitems
  | image s =>
    intro html index
    rw [sectionOpcodes, HandlerTable.runFrom_singleton]
    exact meets_image index (stateAt html []) s
  | card c =>
    intro html index
    rw [sectionOpcodes, HandlerTable.runFrom_singleton]
    exact meets_card index (stateAt html []) c

/-! ## Nodes -/

/-- The run of a node ends as its faults foretell. -/
theorem run_node (n : Node) :
    ∃ stack, (Writer.handlers.runFrom 0 (nodeOpcodes n) (stateAt "" [])).Meets
      (stateAt (htmlOf (nodeTokens n)) stack) ((nodeFaults n).map Fault.error) := by
  have hblock : ∀ {ops ts fs}, Writes ops ts fs →
      ∃ stack, (Writer.handlers.runFrom 0 ops (stateAt "" [])).Meets (stateAt (htmlOf ts) stack)
        (fs.map Fault.error) := by
    intro ops ts fs h
    have hrun := h "" 0
    rw [String.empty_append] at hrun
    exact ⟨[], hrun⟩
  cases n with
  | post p => exact hblock (writes_flatMap writes_section p.sections)
  | markupSection s => exact hblock (writes_section (.markup s))
  | listSection s => exact hblock (writes_section (.list s))
  | listItem i => exact hblock (writes_item i)
  | imageSection s => exact hblock (writes_section (.image s))
  | card c => exact hblock (writes_section (.card c))
  | marker m =>
    have hrun := run_marker m [] "" 0
    rw [String.empty_append] at hrun
    exact ⟨m.after [], hrun⟩
  | markup m =>
    have hrun := run_openings [m] [] "" 0
    rw [String.empty_append, List.flatMap_singleton, List.flatMap_singleton] at hrun
    exact ⟨[m], hrun⟩

/-- **What rendering gives.** The HTML of a node is its tokens; if it has faults, the error is that
of the first of them. -/
theorem render_eq (n : Node) :
    render n = match nodeFaults n with
      | [] => .ok (htmlOf (nodeTokens n))
      | f :: _ => .error f.error := by
  obtain ⟨stack, hrun⟩ := run_node n
  have hops : visitor.opcodes n = .ok (nodeOpcodes n).toArray := by
    rw [Visitor.opcodes, emits_node n]
    simp [Outcome.toExcept]
  have hrender : render n =
      (Writer.handlers.runFrom 0 (nodeOpcodes n) (stateAt "" [])).toExcept.map (·.html) := by
    rw [render, hops]
    rfl
  rw [hrender]
  cases hf : nodeFaults n with
  | nil =>
    rw [hf] at hrun
    have hok : Writer.handlers.runFrom 0 (nodeOpcodes n) (stateAt "" []) = .ok _ := hrun
    rw [hok]
    rfl
  | cons f fs =>
    rw [hf] at hrun
    obtain ⟨w, hw⟩ := hrun
    rw [hw]
    rfl

end RichText.Html

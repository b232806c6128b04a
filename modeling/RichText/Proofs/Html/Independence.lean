import RichText.Proofs.Html.Faults

/-!
# Sections render independently

All sections of a post, and all posts that are written one after another, run on one target with one
stack of open markups. Still no section can tell what was written before it: it starts with an empty
stack, and it ends with one unless it fails (`Writes` in `Html.Run`).

* `render_sections` — rendering a post is rendering its sections in order up to the first failure,
  and joining what they give.
* `Writer.addPosts` — posts written one after another on one target.

Main result: `render_independent`.
-/

namespace RichText.Html

/-! ## Sections -/

/-- What rendering a section on its own gives. -/
theorem render_section (s : Section) :
    render s.toNode = match sectionFaults s with
      | [] => .ok (htmlOf (sectionTokens s))
      | f :: _ => .error f.error := by
  cases s <;> exact render_eq _

/-- A post is rendered section by section. -/
theorem render_sections (p : Post) :
    render (.post p) = String.join <$> p.sections.mapM fun s => render s.toNode := by
  rw [render_eq, nodeFaults, nodeTokens]
  induction p.sections with
  | nil => rfl
  | cons s ss ih =>
    rw [List.flatMap_cons, List.flatMap_cons, List.mapM_cons, render_section]
    cases sectionFaults s with
    | cons f fs => rfl
    | nil =>
      -- the HTML of the first section goes in front of what the others give
      have hfront : ∀ (h : String) (r : Except Error (List String)),
          String.join <$> (r >>= fun hs => pure (h :: hs)) = (h ++ ·) <$> String.join <$> r := by
        intro h r
        cases r with
        | ok hs => exact congrArg Except.ok String.join_cons
        | error e => rfl
      rw [List.nil_append, ok_bind, hfront, ← ih]
      cases ss.flatMap sectionFaults with
      | nil => exact congrArg Except.ok (htmlOf_append _ _)
      | cons f fs => rfl

/-! ## Posts on one target -/

/-- Visits a post and runs its opcodes on the target. -/
def Writer.addPost (p : Post) (w : Writer) : Outcome Writer :=
  .given w (visitor.opcodes (.post p)) fun ops => handlers.run ops w

/-- Writes posts one after another on one target. -/
def Writer.addPosts : List Post → Writer → Outcome Writer
  | [], w => .ok w
  | p :: ps, w => (w.addPost p).andThen (addPosts ps)

theorem addPost_meets (p : Post) (html : String) :
    (Writer.addPost p ⟨html, []⟩).Meets ⟨html ++ htmlOf (nodeTokens (.post p)), []⟩
      ((nodeFaults (.post p)).map Fault.error) := by
  have hops : visitor.opcodes (.post p) = .ok (nodeOpcodes (.post p)).toArray := by
    rw [Visitor.opcodes, emits_node]
    simp [Outcome.toExcept]
  rw [Writer.addPost, hops]
  exact writes_flatMap writes_section p.sections html 0

/-- A post adds the HTML that it has on its own. -/
theorem addPost_ok_iff {p : Post} {html : String} {w : Writer} :
    Writer.addPost p ⟨html, []⟩ = .ok w ↔
      ∃ out, render (.post p) = .ok out ∧ w = ⟨html ++ out, []⟩ := by
  have hmeets := addPost_meets p html
  simp only [render_ok_iff]
  cases hf : nodeFaults (.post p) with
  | nil =>
    rw [hf] at hmeets
    have hok : Writer.addPost p ⟨html, []⟩ = .ok _ := hmeets
    rw [hok]
    simp [eq_comm]
  | cons f fs =>
    rw [hf] at hmeets
    obtain ⟨u, hu⟩ := hmeets
    rw [hu]
    simp

theorem addPosts_ok_iff {ps : List Post} {html : String} {w : Writer} :
    Writer.addPosts ps ⟨html, []⟩ = .ok w ↔
      ∃ outs, List.Forall₂ (fun p out => render (.post p) = .ok out) ps outs ∧
        w = ⟨html ++ String.join outs, []⟩ := by
  induction ps generalizing html with
  | nil => simp [Writer.addPosts, eq_comm]
  | cons p ps ih =>
    rw [Writer.addPosts]
    cases hp : Writer.addPost p ⟨html, []⟩ with
    | ok w' =>
      obtain ⟨out, hout, rfl⟩ := addPost_ok_iff.1 hp
      rw [Outcome.andThen_ok, ih]
      simp only [List.forall₂_cons_left_iff, hout, Except.ok.injEq]
      constructor
      · rintro ⟨outs, houts, rfl⟩
        exact ⟨out :: outs, ⟨out, outs, rfl, houts, rfl⟩,
          by rw [String.join_cons, String.append_assoc]⟩
      · rintro ⟨_, ⟨_, outs, rfl, houts, rfl⟩, rfl⟩
        exact ⟨outs, houts, by rw [String.join_cons, String.append_assoc]⟩
    | failed e w' =>
      refine ⟨nofun, ?_⟩
      rintro ⟨_, houts, -⟩
      obtain ⟨out, outs, hout, -, -⟩ := List.forall₂_cons_left_iff.1 houts
      rw [addPost_ok_iff.2 ⟨out, hout, rfl⟩] at hp
      cases hp

/-! ## Independence -/

/-- **Sections render independently.** A post renders just if each of its sections renders on its
own, and its HTML is theirs in order. Otherwise its error is that of the first section that fails on
its own. Posts written one after another on one target succeed just if each renders on its own, and
the target then holds what it held before, the HTML of each post in order, and no open markup. -/
theorem render_independent :
    (∀ (p : Post) (html : String), render (.post p) = .ok html ↔
      ∃ htmls, List.Forall₂ (fun s h => render s.toNode = .ok h) p.sections htmls ∧
        html = String.join htmls) ∧
    (∀ (p : Post) (e : Error), render (.post p) = .error e ↔
      ∃ before s after, p.sections = before ++ s :: after ∧
        (∀ t ∈ before, ∃ h, render t.toNode = .ok h) ∧ render s.toNode = .error e) ∧
    ∀ (ps : List Post) (html : String) (w : Writer), Writer.addPosts ps ⟨html, []⟩ = .ok w ↔
      ∃ outs, List.Forall₂ (fun p out => render (.post p) = .ok out) ps outs ∧
        w = ⟨html ++ String.join outs, []⟩ := by
  refine ⟨fun p html => ?_, fun p e => ?_, fun ps html w => addPosts_ok_iff⟩
  · rw [render_sections, map_eq_ok_iff]
    simp only [mapM_eq_ok_iff_forall₂, eq_comm (a := html)]
  · rw [render_sections, map_eq_error_iff, mapM_eq_error_iff]

end RichText.Html

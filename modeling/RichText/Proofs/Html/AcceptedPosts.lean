import RichText.Proofs.Html.Faults
import RichText.Proofs.Mobiledoc.Reading

/-!
# The Mobiledoc reader is a gate for HTML

The reader checks names when it meets them in the tables and the sections of a document, after it
has lowered all tags. The HTML target checks them again in the parameters of its opcodes. What has
passed the reader passes the target, too: whatever the grammar of Mobiledoc denotes is admissible,
and of an admissible post the target can only refuse the nesting.

The reader does not look at how markers nest. It takes any number of markups to close, and it lets
markups stay open (`render_ofMobiledoc_overclosing`).

Main result: `render_ofMobiledoc`.
-/

namespace RichText.Html

/-! ## Admissible posts -/

/-- In an admissible post, all faults are about nesting. -/
theorem nestingError_of_mem_postFaults {p : Post} (hp : p.Admissible) {f : Fault}
    (h : f ∈ nodeFaults (.post p)) : NestingError f.error := by
  obtain ⟨s, hs, hf⟩ := List.mem_flatMap.1 h
  exact nestingError_of_mem_sectionFaults (hp s hs) hf

theorem nestingError_of_render {p : Post} (hp : p.Admissible) {e : Error}
    (h : render (.post p) = .error e) : NestingError e := by
  obtain ⟨f, hf, rfl⟩ := exists_fault_of_render h
  exact nestingError_of_mem_postFaults hp hf

theorem exists_render_iff_of_admissible {p : Post} (hp : p.Admissible) :
    (∃ html, render (.post p) = .ok html) ↔ ∀ ms ∈ p.markerLists, Balanced ms := by
  rw [exists_render_iff, postFaults_eq_nil, Post.renderable_iff_of_admissible hp]

/-! ## Accepted documents -/

/-- **The Mobiledoc reader is a gate for HTML.** Let a JSON value be read as a post. The post has an
HTML form if and only if the markers of each of its sections and items are balanced. Otherwise the
error is about a marker that closes more markups than are open, or about markups that are left
open, and never about the tag of a section or a markup or about the name of an attribute. -/
theorem render_ofMobiledoc {doc : Json} {p : Post} (h : Post.ofMobiledoc doc = .ok p) :
    ((∃ html, render (.post p) = .ok html) ↔ ∀ ms ∈ p.markerLists, Balanced ms) ∧
      (∀ e, render (.post p) = .error e → NestingError e) ∧
      ∀ e, NameError e → render (.post p) ≠ .error e := by
  have hp := Mobiledoc.admissible_of_ofMobiledoc h
  refine ⟨exists_render_iff_of_admissible hp, fun e he => nestingError_of_render hp he, ?_⟩
  intro e hname he
  exact hname.not_nestingError (nestingError_of_render hp he)

/-- A document with tags in upper case and a marker that opens one markup and closes two. -/
def overclosingDocument : Json := .obj [
  ("markups", .arr [.arr [.str "A", .arr [.str "href", .str "#"]]]),
  ("sections", .arr [.arr [.nat 1, .str "P",
    .arr [.arr [.nat 0, .arr [.nat 0], .nat 2, .str "x"]]]]),
  ("version", .str "0.3.2")]

/-- The post that it denotes. -/
def overclosingPost : Post :=
  ⟨[.markup ⟨"p", [⟨"x", [(Markup.mk "a" .empty).attribute "href" "#"], 2⟩]⟩]⟩

theorem render_ofMobiledoc_overclosing :
    Post.ofMobiledoc overclosingDocument = .ok overclosingPost ∧
      render (.post overclosingPost) = .error (.invalidParam 0 .closeCount "2") ∧
      ((∃ html, render (.post overclosingPost) = .ok html) ↔
        ∀ ms ∈ overclosingPost.markerLists, Balanced ms) ∧
      (∀ e, render (.post overclosingPost) = .error e → NestingError e) ∧
      ∀ e, NameError e → render (.post overclosingPost) ≠ .error e := by
  have hread : Post.ofMobiledoc overclosingDocument = .ok overclosingPost := by decide +kernel
  have hrender : render (.post overclosingPost) = .error (.invalidParam 0 .closeCount "2") := by
    decide +kernel
  exact ⟨hread, hrender, render_ofMobiledoc hread⟩

end RichText.Html

import RichText.CommandLine
import RichText.Proofs.Markdown.Writable
import RichText.Proofs.Mobiledoc.Reading

/-!
# Pipelines of commands

What the command `mobiledoc` prints is an input for all commands again.

**Paths (`isMarkdownPath_iff`).** A path is one of Markdown if the last name in it ends with an
extension of Markdown and begins before it.

**Detection (`detect`).** The format under which an input is read, where none is given. Loading
detects the format first and then reads the input under it (`load_detect`).

**Posts.** Markdown and Mobiledoc are read as admissible posts (`exists_post_of_load`), and those
are the ones that the Mobiledoc reader gives back from what the writer makes of them.

**Theorem (`output_of_printed`).** A text that holds the printed JSON value is detected as a
Mobiledoc and read as the document that was read from the first input, so every command gives the
same on both. This holds of every reader of Markdown, whatever events it gives.
-/

namespace RichText.CommandLine

/-! ## Paths -/

/-- The extension of a name is what follows its last point, unless the name begins with that
point. -/
theorem extension?_eq_some_iff {name ext : String} :
    extension? name = some ext ↔
      ∃ stem : String, stem ≠ "" ∧ '.' ∉ ext.toList ∧ name = stem ++ "." ++ ext := by
  unfold extension?
  constructor
  · intro h
    have hsplit := List.takeWhile_append_dropWhile (p := (· != '.')) (l := name.toList.reverse)
    split at h
    · rename_i c last rest hdrop
      obtain rfl := Option.some.inj h
      have hc : c = '.' := by
        have hhead := List.head?_dropWhile_not (· != '.') name.toList.reverse
        simpa [hdrop] using hhead
      subst hc
      rw [hdrop] at hsplit
      refine ⟨String.ofList (last :: rest).reverse, by simp, ?_, ?_⟩
      · intro hmem
        rw [String.toList_ofList, List.mem_reverse] at hmem
        simpa using List.all_eq_true.1 List.all_takeWhile _ hmem
      · rw [← String.toList_inj]
        simpa using congrArg List.reverse hsplit.symm
    · cases h
  · rintro ⟨stem, hstem, hext, rfl⟩
    have hplain : ∀ c ∈ ext.toList.reverse, (c != '.') = true := by
      intro c hc
      rw [bne_iff_ne]
      rintro rfl
      exact hext (List.mem_reverse.1 hc)
    have hreverse : (stem ++ "." ++ ext).toList.reverse =
        ext.toList.reverse ++ '.' :: stem.toList.reverse := by simp
    rw [hreverse, List.dropWhile_append_of_pos hplain, List.takeWhile_append_of_pos hplain]
    cases hrest : stem.toList.reverse with
    | nil => simp_all
    | cons last rest => simp

/-- The last part of a path that names anything. -/
theorem getLast?_names_eq_some_iff {parts : List String} {name : String} :
    (parts.filter fun part => part != "" && part != ".").getLast? = some name ↔
      (name ≠ "" ∧ name ≠ ".") ∧ ∃ before after, parts = before ++ name :: after ∧
        ∀ part ∈ after, part = "" ∨ part = "." := by
  rw [List.getLast?_filter, List.find?_eq_some_iff_append]
  refine and_congr (by simp) ⟨?_, ?_⟩
  · rintro ⟨after, before, hparts, hafter⟩
    refine ⟨before.reverse, after.reverse, ?_, fun part hpart => ?_⟩
    · rw [← List.reverse_inj, hparts]
      simp
    · have hpart := hafter part (List.mem_reverse.1 hpart)
      grind
  · rintro ⟨before, after, rfl, hafter⟩
    refine ⟨after.reverse, before.reverse, by simp, fun part hpart => ?_⟩
    have hpart := hafter part (List.mem_reverse.1 hpart)
    grind

/-- The last name in a path is its last part that names anything, unless that leads to the directory
above. -/
theorem fileName?_eq_some_iff {path name : String} :
    fileName? path = some name ↔ name ≠ ".." ∧ (name ≠ "" ∧ name ≠ ".") ∧
      ∃ before after, pathParts path = before ++ name :: after ∧
        ∀ part ∈ after, part = "" ∨ part = "." := by
  rw [← getLast?_names_eq_some_iff]
  unfold fileName?
  split
  · rename_i habove
    rw [habove]
    simp [eq_comm]
  · rename_i habove
    refine ⟨fun hname => ⟨?_, hname⟩, And.right⟩
    rintro rfl
    exact habove hname

theorem isMarkdownPath_iff_extension {path : String} :
    isMarkdownPath path = true ↔ ∃ name ext, fileName? path = some name ∧
      extension? name = some ext ∧ (ext = "md" ∨ ext = "markdown") := by
  unfold isMarkdownPath
  cases fileName? path with
  | none => simp
  | some name => cases hext : extension? name <;> simp [hext]

/-- A path is one of Markdown if the last name in it is a stem and an extension of Markdown. Nothing
but slashes and single points may follow that name. -/
theorem isMarkdownPath_iff {path : String} :
    isMarkdownPath path = true ↔ ∃ stem ext before after, stem ≠ "" ∧
      (ext = "md" ∨ ext = "markdown") ∧ pathParts path = before ++ (stem ++ "." ++ ext) :: after ∧
        ∀ part ∈ after, part = "" ∨ part = "." := by
  simp only [isMarkdownPath_iff_extension, fileName?_eq_some_iff, extension?_eq_some_iff]
  constructor
  · rintro ⟨_, ext, ⟨-, -, before, after, hparts, hafter⟩, ⟨stem, hstem, -, rfl⟩, hext⟩
    exact ⟨stem, ext, before, after, hstem, hext, hparts, hafter⟩
  · rintro ⟨stem, ext, before, after, hstem, hext, hparts, hafter⟩
    have hplain : '.' ∉ ext.toList ∧ 2 ≤ ext.length := by
      rcases hext with rfl | rfl <;> decide
    have hlength : 3 ≤ (stem ++ "." ++ ext).length := by
      simp only [String.length_append]
      have hpoint : ".".length = 1 := rfl
      omega
    refine ⟨_, ext, ⟨?_, ⟨?_, ?_⟩, before, after, hparts, hafter⟩, ⟨stem, hstem, hplain.1, rfl⟩,
      hext⟩
    all_goals
      intro hname
      rw [hname] at hlength
      exact absurd hlength (by decide)

/-- A directory is read as its name; a name that begins with its only point has no extension. -/
example : isMarkdownPath "notes.d/a.md/./" = true ∧ isMarkdownPath "a.md/.md" = false := by cbv

/-- Standard input has no extension. -/
theorem isMarkdownPath_stdin : isMarkdownPath "-" = false := by
  cbv

/-! ## Detection -/

/-- The format under which an input is read: the given one, or the one that its path and its text
show. -/
def detect (text path : String) : Format → Format
  | .auto =>
    if isMarkdownPath path then .markdown
    else
      match Json.parseSorted? text with
      | some v => if (v.get? "version").isSome then .mobiledoc else .tree
      | none => .markdown
  | format => format

section Detection

variable {parse : String → List Markdown.Event}

/-- Reading an input is reading it under the format that is detected. -/
theorem load_detect (text path : String) (format : Format) :
    load text path (detect text path format) parse = load text path format parse := by
  cases format with
  | auto =>
    by_cases hpath : isMarkdownPath path = true
    · simp [detect, load, hpath]
    · cases hv : Json.parseSorted? text with
      | none => simp [detect, load, hpath, hv]
      | some v =>
        cases hversion : (v.get? "version").isSome <;>
          simp [detect, load, hpath, hv, hversion]
  | _ => rfl

/-! ## Posts -/

section Load

variable {text path : String} {format : Format}

theorem load_of_markdown (h : detect text path format = .markdown) :
    load text path format parse = .ok (.post (Markdown.postOfEvents (parse text))) := by
  rw [← load_detect, h]
  rfl

theorem load_of_mobiledoc (h : detect text path format = .mobiledoc) :
    load text path format parse =
      match Json.parseSorted? text with
      | some v => Node.post <$> Post.ofMobiledoc v
      | none => .error (.json .malformed) := by
  rw [← load_detect, h]
  rfl

/-- Markdown and Mobiledoc are read as admissible posts. -/
theorem exists_post_of_load {n : Node}
    (hformat : detect text path format = .markdown ∨ detect text path format = .mobiledoc)
    (h : load text path format parse = .ok n) : ∃ p : Post, n = .post p ∧ p.Admissible := by
  rcases hformat with hformat | hformat
  · rw [load_of_markdown hformat] at h
    cases h
    exact ⟨_, rfl, Markdown.admissible_postOfEvents (parse text)⟩
  · rw [load_of_mobiledoc hformat] at h
    cases hv : Json.parseSorted? text with
    | some v =>
      rw [hv] at h
      obtain ⟨p, hp, rfl⟩ := map_eq_ok_iff.1 h
      exact ⟨p, rfl, Mobiledoc.admissible_of_ofMobiledoc hp⟩
    | none =>
      rw [hv] at h
      cases h

end Load

/-! ## The printed document as an input -/

variable {p : Post} {fed path : String}

theorem detect_written (hfed : Json.parseSorted? fed = some (Mobiledoc.written p).toJson)
    (hpath : isMarkdownPath path = false) : detect fed path .auto = .mobiledoc := by
  have hversion : ((Mobiledoc.written p).toJson.get? "version").isSome = true := rfl
  simp [detect, hpath, hfed, hversion]

/-- A text that holds the Mobiledoc of an admissible post is read as that post. -/
theorem load_written (hp : p.Admissible)
    (hfed : Json.parseSorted? fed = some (Mobiledoc.written p).toJson)
    (hpath : isMarkdownPath path = false) : load fed path .auto parse = .ok (.post p) := by
  rw [load_of_mobiledoc (detect_written hfed hpath), hfed]
  show Node.post <$> Post.ofMobiledoc (Mobiledoc.written p).toJson = _
  rw [Mobiledoc.ofMobiledoc_written hp]
  rfl

theorem output_eq (i : Invocation) (text : String) :
    i.output (.ok text) parse = load text i.file i.format parse >>= i.command.output := rfl

/-- An invocation whose input can be read writes what its command makes of the document. -/
theorem output_of_load {i : Invocation} {text : String} {n : Node}
    (h : load text i.file i.format parse = .ok n) :
    i.output (.ok text) parse = i.command.output n := by
  rw [output_eq, h]
  rfl

theorem output_mobiledoc (p : Post) (pretty : Bool) :
    (Command.mobiledoc pretty).output (.post p) =
      .ok (jsonText (Mobiledoc.written p).toJson pretty) := by
  show Mobiledoc.ofPost p >>= _ = _
  rw [Mobiledoc.ofPost_eq]
  rfl

/-- **Pipelines compose.** Let the command `mobiledoc` print a document for an input that is read as
Markdown or as a Mobiledoc, and let `fed` be a text that holds the printed JSON value, such as the
printed text itself. Where no Markdown extension stands in the way, `fed` is detected as a
Mobiledoc, `mobiledoc` prints the same value for it in either layout, and every command has the same
output or the same error for it as for the first input. -/
theorem output_of_printed {text file printed : String} {format : Format} {pretty : Bool}
    (hformat : detect text file format = .markdown ∨ detect text file format = .mobiledoc)
    (hprinted :
      Invocation.output ⟨.mobiledoc pretty, file, format⟩ (.ok text) parse = .ok printed) :
    ∃ d : Mobiledoc, load text file format parse >>= Mobiledoc.ofNode = .ok d ∧
      printed = jsonText d.toJson pretty ∧
      ∀ fed, Json.parseSorted? fed = some d.toJson →
        ∀ path, path = "-" ∨ isMarkdownPath path = false →
          detect fed path .auto = .mobiledoc ∧
          (∀ layout, Invocation.output ⟨.mobiledoc layout, path, .auto⟩ (.ok fed) parse =
            .ok (jsonText d.toJson layout)) ∧
          ∀ command, Invocation.output ⟨command, path, .auto⟩ (.ok fed) parse =
            Invocation.output ⟨command, file, format⟩ (.ok text) parse := by
  obtain ⟨n, hload, houtput⟩ := bind_eq_ok_iff.1 ((output_eq _ _).symm.trans hprinted)
  obtain ⟨p, rfl, hp⟩ := exists_post_of_load hformat hload
  rw [output_mobiledoc] at houtput
  refine ⟨Mobiledoc.written p, ?_, (Except.ok.inj houtput).symm, ?_⟩
  · rw [hload]
    exact Mobiledoc.ofPost_eq p
  · intro fed hfed path hpath
    replace hpath : isMarkdownPath path = false := by
      rcases hpath with rfl | hpath
      · exact isMarkdownPath_stdin
      · exact hpath
    have hagain : load fed path .auto parse = .ok (.post p) := load_written hp hfed hpath
    refine ⟨detect_written hfed hpath, fun layout => ?_, fun command => ?_⟩
    · rw [output_of_load hagain]
      exact output_mobiledoc p layout
    · exact (output_of_load (i := ⟨command, path, .auto⟩) hagain).trans
        (output_of_load (i := ⟨command, file, format⟩) hload).symm

end Detection

/-- A Mobiledoc with names in upper case. -/
def upperCase : String :=
  "\x7b\"version\":\"0.3\",\"markups\":[[\"B\"]],\"sections\":[[1,\"P\",[[0,[0],0,\"x\"]]]]\x7d"

/-- What the command `mobiledoc` prints for it. -/
def upperCasePrinted : String :=
  "\x7b\"atoms\":[],\"cards\":[],\"markups\":[[\"b\"]]," ++
    "\"sections\":[[1,\"p\",[[0,[0],0,\"x\"]]]],\"version\":\"0.3.2\"\x7d"

theorem output_of_printed_upperCase :
    Invocation.output ⟨.mobiledoc false, "-", .mobiledoc⟩ (.ok upperCase) = .ok upperCasePrinted ∧
      ∀ command, Invocation.output ⟨command, "-", .auto⟩ (.ok upperCasePrinted) =
        Invocation.output ⟨command, "-", .mobiledoc⟩ (.ok upperCase) := by
  have hprinted : Invocation.output ⟨.mobiledoc false, "-", .mobiledoc⟩ (.ok upperCase) =
      .ok upperCasePrinted := by decide +kernel
  obtain ⟨d, hd, -, hfed⟩ := output_of_printed (.inr rfl) hprinted
  have hparsed : Json.parseSorted? upperCasePrinted =
      (load upperCase "-" .mobiledoc >>= Mobiledoc.ofNode).toOption.map Mobiledoc.toJson := by
    decide +kernel
  rw [hd] at hparsed
  exact ⟨hprinted, (hfed upperCasePrinted hparsed "-" (.inl rfl)).2.2⟩

end RichText.CommandLine

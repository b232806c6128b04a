import RichText.Proofs.Document.Tree
import RichText.Proofs.Json.Sorting

/-!
# Readers of sorted values

A document is read from a value as it stands in a text, or from the same value with the members of
every object sorted. `SortsTo read f` says that a reader gives of a sorted value the image under `f`
of what it gives of the value itself. For most readers `f` changes nothing; the payload of a card is
kept as it is read, so there it is sorted.

Of several faults a reader reports the one it meets first, and sorting may change which one that is.
So only successes are compared (`Except.toOption`).

**Records.** The steps of a record are `Independent` if two members of different names may be read
in either order. Sorting only reorders the members and sorts the value of each, so a record of
independent steps sorts if each step does (`foldlM_sortedMembers`).

**Tags.** A tagged record is read from its tag and from the members that are left, and sorting
commutes with leaving members out (`TagTable.sortsTo_read`).
-/

namespace RichText

/-! ## Successes -/

section Successes

variable {ε α β : Type}

theorem toOption_eq_some_iff {r : Except ε α} {a : α} : r.toOption = some a ↔ r = .ok a := by
  cases r <;> simp [Except.toOption]

@[simp] theorem toOption_ok (a : α) : (Except.ok a : Except ε α).toOption = some a := rfl

@[simp] theorem toOption_pure (a : α) : (pure a : Except ε α).toOption = some a := rfl

@[simp] theorem toOption_error (e : ε) : (Except.error e : Except ε α).toOption = none := rfl

@[simp] theorem toOption_bind (r : Except ε α) (k : α → Except ε β) :
    (r >>= k).toOption = r.toOption.bind fun a => (k a).toOption := by
  cases r <;> rfl

@[simp] theorem toOption_map (f : α → β) (r : Except ε α) :
    (f <$> r).toOption = r.toOption.map f := by
  cases r <;> rfl

end Successes

namespace TreeReader

variable {α β δ : Type} {read : TreeReader α} {f : α → α}

/-- The reader gives of a sorted value the image under `f` of what it gives of the value. -/
def SortsTo (read : TreeReader α) (f : α → α) : Prop :=
  ∀ v : Json, v.KeysDistinct → (read v.sorted).toOption = (read v).toOption.map f

theorem SortsTo.sorted_eq_ok_iff (h : SortsTo read f) {v : Json} (hv : v.KeysDistinct) {b : α} :
    read v.sorted = .ok b ↔ ∃ a, read v = .ok a ∧ f a = b := by
  simp only [← toOption_eq_some_iff, h v hv, Option.map_eq_some_iff]

theorem SortsTo.map {g : β → β} (h : SortsTo read f) (wrap : α → β)
    (hwrap : ∀ a, wrap (f a) = g (wrap a)) : SortsTo (fun v => wrap <$> read v) g := by
  intro v hv
  simp only [toOption_map, h v hv, Option.map_map]
  exact Option.map_congr fun a _ => hwrap a

/-! ## Plain values -/

theorem sortsTo_text : SortsTo text id := by
  intro v _
  cases v <;> simp [Json.sorted, text]

theorem sortsTo_count : SortsTo count id := by
  intro v _
  cases v with
  | int n => cases n <;> simp [Json.sorted, count]
  | _ => simp [Json.sorted, count]

theorem SortsTo.sequence (h : SortsTo read f) : SortsTo (sequence read) (List.map f) := by
  intro v hv
  cases v with
  | arr items =>
    have hitems := Json.keysDistinct_arr.1 hv
    clear hv
    simp only [Json.sorted, Json.sortedList_eq_map, TreeReader.sequence]
    induction items with
    | nil => rfl
    | cons v items ih =>
      obtain ⟨hv, hitems⟩ := List.forall_mem_cons.1 hitems
      simp only [List.map_cons, List.mapM_cons, toOption_bind, h v hv, ih hitems]
      cases (read v).toOption <;> cases (items.mapM read).toOption <;> rfl
  | _ => simp [Json.sorted, TreeReader.sequence]

/-! ## Records -/

/-- A record sorts if it does so from its members and from its fields in order. -/
theorem SortsTo.record {name : String} {ofMembers : List (String × Json) → TreeResult α}
    {ofItems : List Json → TreeResult α}
    (hmembers : ∀ members, (Json.obj members).KeysDistinct →
      (ofMembers (Json.sortedMembers members [])).toOption = (ofMembers members).toOption.map f)
    (hitems : ∀ items : List Json, (∀ v ∈ items, v.KeysDistinct) →
      (ofItems (items.map Json.sorted)).toOption = (ofItems items).toOption.map f) :
    SortsTo (record name ofMembers ofItems) f := by
  intro v hv
  cases v with
  | obj members => simpa only [Json.sorted, TreeReader.record] using hmembers members hv
  | arr items =>
    simpa only [Json.sorted, Json.sortedList_eq_map, TreeReader.record] using
      hitems items (Json.keysDistinct_arr.1 hv)
  | _ => simp [Json.sorted, TreeReader.record]

/-! ### From fields in order -/

section Items

variable {items : List Json}

theorem SortsTo.firstItem (h : SortsTo read f) (name : String) (fields : Nat)
    (hitems : ∀ v ∈ items, v.KeysDistinct) :
    (firstItem name fields read (items.map Json.sorted)).toOption =
      (firstItem name fields read items).toOption.map f := by
  cases items with
  | nil => rfl
  | cons v items => exact h v (hitems v List.mem_cons_self)

theorem SortsTo.itemOr (h : SortsTo read f) (default : α) (hdefault : f default = default)
    (index : Nat) (hitems : ∀ v ∈ items, v.KeysDistinct) :
    (itemOr default read (items.map Json.sorted) index).toOption =
      (itemOr default read items index).toOption.map f := by
  simp only [TreeReader.itemOr, List.getElem?_map]
  cases hv : items[index]? with
  | none => simp [hdefault]
  | some v => exact h v (hitems v (List.mem_of_getElem? hv))

@[simp] theorem atMost_map (fields : Nat) (items : List Json) :
    atMost fields (items.map Json.sorted) = atMost fields items := by
  simp [atMost]

end Items

/-! ### From members -/

/-- Two members of different names may be read in either order. -/
def Independent (add : δ → String × Json → TreeResult δ) : Prop :=
  ∀ d m n, m.1 ≠ n.1 →
    ((add d m).toOption.bind fun e => (add e n).toOption) =
      (add d n).toOption.bind fun e => (add e m).toOption

/-- Reading a sorted member into the image of a draft under `g` gives the image of the draft that
reading the member gives. -/
def StepSortsTo (add : δ → String × Json → TreeResult δ) (g : δ → δ) : Prop :=
  ∀ d m, m.2.KeysDistinct →
    (add (g d) (Json.sortedMember m)).toOption = (add d m).toOption.map g

/-- Two fields of a draft that do not look at each other may be set in either order. -/
theorem set_comm {x : Option α} {y : Option β} {x' : δ → Option α} {y' : δ → Option β}
    {s : α → δ} {t : β → δ} {s' : δ → α → δ} {t' : δ → β → δ} (hx : ∀ b, x' (t b) = x)
    (hy : ∀ a, y' (s a) = y) (hset : ∀ a b, t' (s a) b = s' (t b) a) :
    ((x.map s).bind fun e => (y' e).map (t' e)) = (y.map t).bind fun e => (x' e).map (s' e) := by
  cases x <;> cases y <;> simp [hx, hy, hset]

theorem SortsTo.once (h : SortsTo read f) (field : String) (old : Option α) {v : Json}
    (hv : v.KeysDistinct) :
    (once field (old.map f) read v.sorted).toOption =
      (once field old read v).toOption.map (Option.map f) := by
  cases old with
  | some a => rfl
  | none => simp [TreeReader.once, h v hv, Function.comp_def]

theorem SortsTo.once_id (h : SortsTo read id) (field : String) (old : Option α) {v : Json}
    (hv : v.KeysDistinct) :
    (TreeReader.once field old read v.sorted).toOption =
      (TreeReader.once field old read v).toOption := by
  simpa using h.once field old hv

section Members

variable {add : δ → String × Json → TreeResult δ} {g : δ → δ}

theorem toOption_foldlM (members : List (String × Json)) (d : δ) :
    (members.foldlM add d).toOption =
      members.foldl (fun r m => r.bind fun e => (add e m).toOption) (some d) := by
  have hfrom : ∀ r : TreeResult δ, (r >>= fun e => members.foldlM add e).toOption =
      members.foldl (fun r m => r.bind fun e => (add e m).toOption) r.toOption := by
    induction members with
    | nil => intro r; simp
    | cons m members ih =>
      intro r
      simp only [List.foldlM_cons, List.foldl_cons, ← toOption_bind, ← ih (r >>= fun e => add e m)]
      rw [bind_assoc]
  exact hfrom (.ok d)

/-- Members of different names may be read in any order. -/
theorem Independent.foldlM_perm (h : Independent add) {members others : List (String × Json)}
    (hp : members.Perm others) (hkeys : (members.map Prod.fst).Nodup) (d : δ) :
    (members.foldlM add d).toOption = (others.foldlM add d).toOption := by
  rw [toOption_foldlM, toOption_foldlM]
  apply hp.foldl_eq'
  intro m hm n hn r
  -- As names are not repeated, members of one name are the same member.
  by_cases heq : m.1 = n.1
  · rw [List.inj_on_of_nodup_map hkeys hm hn heq]
  · cases r with
    | none => rfl
    | some d => exact h d m n heq

theorem StepSortsTo.foldlM (h : StepSortsTo add g) {members : List (String × Json)}
    (hvalues : ∀ m ∈ members, m.2.KeysDistinct) (d : δ) :
    ((members.map Json.sortedMember).foldlM add (g d)).toOption =
      (members.foldlM add d).toOption.map g := by
  -- The draft read so far varies: from sorted members it is the image under `g`.
  induction members generalizing d with
  | nil => rfl
  | cons m members ih =>
    obtain ⟨hm, hrest⟩ := List.forall_mem_cons.1 hvalues
    simp only [List.map_cons, List.foldlM_cons, toOption_bind, h d m hm]
    cases (add d m).toOption with
    | none => rfl
    | some e => exact ih hrest e

/-- **A record of independent steps sorts if each step does.** -/
theorem foldlM_sortedMembers (hadd : Independent add) (hstep : StepSortsTo add g) (d : δ)
    (hd : g d = d) {members : List (String × Json)} (h : (Json.obj members).KeysDistinct) :
    ((Json.sortedMembers members []).foldlM add d).toOption =
      (members.foldlM add d).toOption.map g := by
  obtain ⟨hkeys, hvalues⟩ := Json.keysDistinct_obj.1 h
  have hsorted := (Json.keysIncrease_sortedMembers members).nodup
  calc ((Json.sortedMembers members []).foldlM add d).toOption
      = ((members.map Json.sortedMember).foldlM add (g d)).toOption := by
        rw [hadd.foldlM_perm (Json.sortedMembers_perm hkeys) hsorted, hd]
    _ = (members.foldlM add d).toOption.map g := hstep.foldlM hvalues d

end Members

/-! ### A single field -/

section Single

/-- Reads one member of a record that has the field `field` only. -/
def addOnly (field : String) (read : TreeReader α) (d : Option α) (m : String × Json) :
    TreeResult (Option α) :=
  if m.1 = field then once field d read m.2 else .ok d

theorem independent_addOnly (field : String) (read : TreeReader α) :
    Independent (addOnly field read) := by
  intro d m n hne
  by_cases hm : m.1 = field
  · have hn : n.1 ≠ field := fun hn => hne (hm.trans hn.symm)
    simp [addOnly, hm, hn]
  · simp [addOnly, hm]

theorem SortsTo.addOnly (h : SortsTo read f) (field : String) :
    StepSortsTo (addOnly field read) (Option.map f) := by
  intro d m hm
  by_cases hfield : m.1 = field
  · simpa [TreeReader.addOnly, hfield] using h.once field d hm
  · simp [TreeReader.addOnly, hfield]

/-- A record of a single field sorts if the reader of the field does. -/
theorem SortsTo.foldlM_addOnly (h : SortsTo read f) (field : String)
    {members : List (String × Json)} (hmembers : (Json.obj members).KeysDistinct) :
    ((Json.sortedMembers members []).foldlM (TreeReader.addOnly field read) none).toOption =
      (members.foldlM (TreeReader.addOnly field read) none).toOption.map (Option.map f) :=
  foldlM_sortedMembers (independent_addOnly field read) (h.addOnly field) none rfl hmembers

end Single

end TreeReader

open TreeReader

/-! ## Tags -/

namespace TagTable

variable {α : Type} {table : TagTable α} {byIndex : Bool} {f : α → α}

theorem toOption_select_sorted (v : Json) :
    (table.select byIndex v.sorted).toOption = (table.select byIndex v).toOption := by
  cases v <;> simp [Json.sorted, select]

theorem mem_of_select {v : Json} {read : TreeReader α} (h : table.select byIndex v = .ok read) :
    ∃ type, (type, read) ∈ table := by
  unfold select at h
  split at h
  · split at h
    · rename_i type read' hfind
      cases h
      exact ⟨type, List.mem_of_find?_eq_some hfind⟩
    · cases h
  · split at h
    · split at h
      · rename_i type read' hget
        cases h
        exact ⟨type, List.mem_of_getElem? hget⟩
      · cases h
    · cases h
  · cases h

/-- Of members of different names the tag is the one called `type`, and the others are left. -/
theorem takeTag_eq_ok_iff {members others : List (String × Json)} {read : TreeReader α}
    (h : (members.map Prod.fst).Nodup) :
    table.takeTag byIndex none members = .ok (read, others) ↔
      (∃ v, ("type", v) ∈ members ∧ table.select byIndex v = .ok read) ∧
        members.filter (fun m => m.1 != "type") = others := by
  induction members generalizing others with
  | nil => simp [takeTag, required, bind, Except.bind]
  | cons m members ih =>
    obtain ⟨k, v⟩ := m
    rw [List.map_cons, List.nodup_cons] at h
    obtain ⟨hnew, hrest⟩ := h
    by_cases hk : k = "type"
    · subst hk
      have huntagged : Untagged members := by
        intro m hm heq
        exact hnew (List.mem_map.2 ⟨m, hm, heq⟩)
      have hfilter : members.filter (fun m => m.1 != "type") = members := by
        simpa [Untagged] using huntagged
      have hno : ∀ w, ("type", w) ∉ members := fun w hw => huntagged _ hw rfl
      simp [takeTag, bind_eq_ok_iff, takeTag_untagged huntagged, hfilter, hno]
    · simp [takeTag, hk, Ne.symm hk, map_eq_ok_iff, ih hrest]

theorem read_obj_eq_ok_iff {members : List (String × Json)} {a : α} (expected : TreePart)
    (h : (members.map Prod.fst).Nodup) :
    table.read expected byIndex (.obj members) = .ok a ↔
      ∃ read, (∃ v, ("type", v) ∈ members ∧ table.select byIndex v = .ok read) ∧
        read (.obj (members.filter fun m => m.1 != "type")) = .ok a := by
  simp [TagTable.read, bind_eq_ok_iff, takeTag_eq_ok_iff h]

/-- **A tagged record sorts if every record that its tag may announce does.** -/
theorem sortsTo_read (expected : TreePart) (h : ∀ e ∈ table, SortsTo e.2 f) :
    SortsTo (table.read expected byIndex) f := by
  intro v hv
  have hselected : ∀ {v read}, table.select byIndex v = .ok read → SortsTo read f := by
    intro v read hread
    obtain ⟨type, hmem⟩ := mem_of_select hread
    exact h (type, read) hmem
  cases v with
  | obj members =>
    obtain ⟨hkeys, -⟩ := Json.keysDistinct_obj.1 hv
    have hsorted := (Json.keysIncrease_sortedMembers members).nodup
    -- The same reader is selected, as no reader is announced by a value that sorting changes.
    have htag : ∀ read, (∃ w, ("type", w) ∈ Json.sortedMembers members [] ∧
          table.select byIndex w = .ok read) ↔
        ∃ v, ("type", v) ∈ members ∧ table.select byIndex v = .ok read := by
      simp [(Json.sortedMembers_perm hkeys).mem_iff, Json.sortedMember,
        ← toOption_eq_some_iff, toOption_select_sorted]
    have hothers : Json.obj ((Json.sortedMembers members []).filter fun m => m.1 != "type") =
        (Json.obj (members.filter fun m => m.1 != "type")).sorted := by
      rw [Json.sorted, Json.filter_sortedMembers hkeys (· != "type")]
    ext b
    rw [Json.sorted, toOption_eq_some_iff, read_obj_eq_ok_iff expected hsorted, hothers]
    simp only [htag, Option.map_eq_some_iff, toOption_eq_some_iff,
      read_obj_eq_ok_iff expected hkeys]
    constructor
    · rintro ⟨read, ⟨v, hmem, hread⟩, hb⟩
      obtain ⟨a, ha, hab⟩ := ((hselected hread).sorted_eq_ok_iff (hv.filter _)).1 hb
      exact ⟨a, ⟨read, ⟨v, hmem, hread⟩, ha⟩, hab⟩
    · rintro ⟨a, ⟨read, ⟨v, hmem, hread⟩, ha⟩, hab⟩
      have hb := ((hselected hread).sorted_eq_ok_iff (hv.filter _)).2 ⟨a, ha, hab⟩
      exact ⟨read, ⟨v, hmem, hread⟩, hb⟩
  | arr items =>
    cases items with
    | nil => rfl
    | cons tag items =>
      obtain ⟨-, hitems⟩ := List.forall_mem_cons.1 (Json.keysDistinct_arr.1 hv)
      simp only [Json.sorted, Json.sortedList, TagTable.read, toOption_bind, toOption_select_sorted]
      cases hread : table.select byIndex tag with
      | error e => rfl
      | ok read => exact hselected hread (.arr items) (Json.keysDistinct_arr.2 hitems)
  | _ => simp [Json.sorted, TagTable.read]

end TagTable

end RichText

import Manifest.Evaluation.State
import Manifest.Proofs.Catalog.Changes
import Manifest.Proofs.Recapitalized
import Manifest.Proofs.Text.Wrapped

/-!
# Finding resources by their own texts

A reference is written with its title as it is, but read with less of it: the type ends at the first
bracket, blanks and quotes around the title are dropped, and titles of classes are capitalised once
more.  So the text of a resource finds this resource exactly if there is nothing to drop and nothing
to capitalise; otherwise it finds another one, or none.  The type needs no such condition.

## Main definitions

* `Reference.IsMade` — references that are made of an ASCII type and any title.
* `Reference.writtenType`, `Reference.writtenTitle` — the two parts in which a text is read.
* `Reference.ReadsBack` — a text is read as the reference that it belongs to.

## Main results

* `Reference.readsBack_iff`, `Reference.readsBack_iff_of_bracketless` — which texts are read so.
* `Catalog.resource?_text_iff` — which resources are found by their own texts.
* `Catalog.resource?_text_padded` — some are not.
-/

namespace Manifest

namespace Reference

variable {r q : Reference}

/-- References that are made of an ASCII type and any title. -/
def IsMade (r : Reference) : Prop := ∃ type title, Text.IsAscii type ∧ r = .of type title

/-- The text of a reference before the first bracket. -/
def writtenType (r : Reference) : List Char := r.text.toList.takeWhile (· ≠ '[')

/-- The text of a reference behind the first bracket, without the last one. -/
def writtenTitle (r : Reference) : List Char :=
  (r.text.toList.dropWhile (· ≠ '[')).tail.dropLast

/-- The text is read as the reference that it belongs to. -/
structure ReadsBack (r : Reference) : Prop where
  type_ne_nil : r.writtenType ≠ []
  not_padded : ¬ IsPadded r.writtenTitle
  not_inQuotes : ¬ IsInQuotes r.writtenTitle
  /-- The name of a class stays as it is if it is capitalised. -/
  capitalized : String.ofList r.writtenType = classType →
    (Name.capitalize (String.ofList r.writtenTitle)).toList = r.writtenTitle

/-! ### The two parts -/

/-- The first bracket is where the type ends. -/
theorem span_bracket {xs : List Char} (h : '[' ∉ xs) (ys : List Char) :
    (xs ++ '[' :: ys).takeWhile (· ≠ '[') = xs ∧
      (xs ++ '[' :: ys).dropWhile (· ≠ '[') = '[' :: ys := by
  have hpos : ∀ c ∈ xs, decide (c ≠ '[') = true := fun c hc =>
    decide_eq_true fun heq => h (heq ▸ hc)
  rw [List.takeWhile_append_of_pos hpos, List.dropWhile_append_of_pos hpos]
  simp

theorem written_of_append {type title : List Char} (htype : '[' ∉ type)
    (h : r.text.toList = type ++ '[' :: (title ++ [']'])) :
    r.writtenType = type ∧ r.writtenTitle = title := by
  obtain ⟨htake, hdrop⟩ := span_bracket htype (title ++ [']'])
  rw [writtenType, writtenTitle, h, htake, hdrop, List.tail_cons, List.dropLast_concat]
  exact ⟨rfl, rfl⟩

/-- As long as types hold no bracket, the parts are type and title. -/
theorem written_of_bracketless (h : r.Bracketless) :
    r.writtenType = r.typeName.toList ∧ r.writtenTitle = r.title.toList :=
  written_of_append h (toList_text r)

/-- The text consists of the two parts. -/
theorem toList_text_written (r : Reference) :
    '[' ∉ r.writtenType ∧ r.text.toList = r.writtenType ++ '[' :: (r.writtenTitle ++ [']']) := by
  have htext := toList_text r
  obtain ⟨type, rest, hsplit, htype⟩ := List.eq_append_cons_of_mem
    (show '[' ∈ r.text.toList by simp [htext])
  -- The last character is a bracket that closes.
  obtain ⟨title, rfl⟩ : ∃ title, rest = title ++ [']'] := by
    have hlast : r.text.toList.getLast? = some ']' := by
      rw [htext, ← List.cons_append, ← List.append_assoc]
      exact List.getLast?_concat
    rw [hsplit, List.getLast?_append_cons, List.getLast?_cons] at hlast
    cases hrest : rest.getLast? with
    | none => simp [hrest] at hlast
    | some c =>
      rw [hrest] at hlast
      cases hlast
      exact List.getLast?_eq_some_iff.mp hrest
  obtain ⟨htype', htitle⟩ := written_of_append htype hsplit
  rw [htype', htitle]
  exact ⟨htype, hsplit⟩

/-- How the text of a reference is read. -/
theorem ofText?_text (r : Reference) :
    ofText? r.text = if r.writtenType = [] then none
      else some (.of (String.ofList r.writtenType) (String.ofList (bare r.writtenTitle))) := by
  obtain ⟨htype, htext⟩ := toList_text_written r
  have hdrop : r.text.toList.dropWhile (· ≠ '[') = '[' :: (r.writtenTitle ++ [']']) := by
    rw [htext, (span_bracket htype _).2]
  rw [ofText?, hdrop]
  show (if (r.writtenType.isEmpty || (r.writtenTitle ++ [']']).getLast? ≠ some ']') then none
    else some (of (String.ofList r.writtenType)
      (String.ofList (unquote (Text.trimChars (r.writtenTitle ++ [']']).dropLast))))) = _
  rw [List.getLast?_concat, List.dropLast_concat, bare]
  simp

theorem takeWhile_append_bracket (xs ys : List Char) :
    (xs ++ '[' :: ys).takeWhile (· ≠ '[') = xs.takeWhile (· ≠ '[') := by
  rw [List.takeWhile_append]
  split
  · rename_i hlength
    rw [(List.takeWhile_prefix _).eq_of_length hlength]
    simp
  · rfl

/-- What is capitalised stays so as far as the first bracket. -/
theorem IsMade.capitalize_writtenType (h : r.IsMade) :
    (Name.capitalize (String.ofList r.writtenType)).toList = r.writtenType := by
  obtain ⟨type, title, htype, rfl⟩ := h
  rw [writtenType, toList_text, takeWhile_append_bracket]
  exact Name.capitalize_beforeBracket htype

/-- The title of a reference is taken as it is, or capitalised if it is the name of a class. -/
theorem toList_text_of (type title : String) :
    (of type title).text.toList = (Name.capitalize type).toList ++ '[' ::
      ((if Name.capitalize type = classType then Name.capitalize title else title).toList ++
        [']']) := toList_text (of type title)

/-- The texts that are read as the references that they belong to. -/
theorem readsBack_iff (h : r.IsMade) :
    (∃ q, ofText? r.text = some q ∧ q.text = r.text) ↔ r.ReadsBack := by
  rw [ofText?_text]
  by_cases htype : r.writtenType = []
  · rw [if_pos htype]
    exact ⟨fun ⟨_, hq, _⟩ => (nomatch hq), fun h => absurd htype h.type_ne_nil⟩
  rw [if_neg htype]
  have hcapital : Name.capitalize (String.ofList r.writtenType) = String.ofList r.writtenType := by
    rw [← String.toList_inj, h.capitalize_writtenType, String.toList_ofList]
  -- The types are equal anyway, so what counts is the title.
  have htitle : (of (String.ofList r.writtenType) (String.ofList (bare r.writtenTitle))).text =
      r.text ↔ (if String.ofList r.writtenType = classType
        then Name.capitalize (String.ofList (bare r.writtenTitle))
        else String.ofList (bare r.writtenTitle)).toList = r.writtenTitle := by
    rw [← String.toList_inj, toList_text_of, hcapital, (toList_text_written r).2,
      String.toList_ofList, List.append_cancel_left_eq, List.cons.injEq,
      List.append_cancel_right_eq]
    simp
  have hreads : r.ReadsBack ↔ bare r.writtenTitle = r.writtenTitle ∧
      (String.ofList r.writtenType = classType →
        (Name.capitalize (String.ofList r.writtenTitle)).toList = r.writtenTitle) := by
    rw [bare_eq_self_iff]
    exact ⟨fun h => ⟨⟨h.not_padded, h.not_inQuotes⟩, h.capitalized⟩,
      fun h => ⟨htype, h.1.1, h.1.2, h.2⟩⟩
  simp only [Option.some.injEq, exists_eq_left', htitle, hreads]
  by_cases hclass : String.ofList r.writtenType = classType
  · simp only [hclass, if_true, true_implies]
    exact capitalize_bare_eq_iff
  · simp only [hclass, if_false, false_implies, and_true, String.toList_ofList]

/-- In the usual case the condition is on the title alone. -/
theorem readsBack_iff_of_bracketless (h : r.Bracketless) (htype : r.typeName ≠ "")
    (hclass : r.typeName ≠ classType) :
    r.ReadsBack ↔ ¬ IsPadded r.title.toList ∧ ¬ IsInQuotes r.title.toList := by
  obtain ⟨hwritten, htitle⟩ := written_of_bracketless h
  rw [← htitle]
  refine ⟨fun h => ⟨h.not_padded, h.not_inQuotes⟩, fun ⟨hpadded, hquotes⟩ => ?_⟩
  refine ⟨?_, hpadded, hquotes, fun heq => ?_⟩
  · rw [hwritten]
    exact mt String.toList_eq_nil_iff.mp htype
  · rw [hwritten, String.ofList_toList] at heq
    exact absurd heq hclass

end Reference

namespace Catalog

open Evaluation

variable {c : Catalog} {r : Resource}

/-- What operations make of an empty catalog if all references are made of an ASCII type and a
title. -/
def IsBuilt (c : Catalog) : Prop :=
  ∃ node environment changes, (∀ change ∈ changes, ∀ q ∈ change.mentioned, q.IsMade) ∧
    c = (new node environment).after changes

theorem IsBuilt.keyed (h : c.IsBuilt) : c.Keyed := by
  obtain ⟨node, environment, changes, -, rfl⟩ := h
  exact (tidy_new node environment).keyed.after changes

theorem IsBuilt.isMade (h : c.IsBuilt) (hr : r ∈ c.resources.values) : r.reference.IsMade := by
  obtain ⟨node, environment, changes, hmade, rfl⟩ := h
  have hmem : r.reference ∈ ((new node environment).after changes).references :=
    List.mem_map_of_mem hr
  rw [references_after] at hmem
  obtain ⟨change, hchange, hadded⟩ := List.mem_filterMap.mp hmem
  exact hmade change (accepted_subset _ changes hchange) _
    (CatalogChange.mem_mentioned_of_added? hadded)

/-- A reference finds a resource exactly if it is written like the one of the resource. -/
theorem Keyed.get?_eq_some_iff (h : c.Keyed) (hr : r ∈ c.resources.values) {q : Reference} :
    c.get? q = some r ↔ q.text = r.reference.text := by
  refine ⟨fun hget => h _ (Table.mem_of_get? hget), fun htext => ?_⟩
  rw [get?, htext]
  exact h.get?_eq hr

/-- A string with the text of a resource resolves to the resource. -/
theorem exists_referenceOf_text_iff (h : c.IsBuilt) (hr : r ∈ c.resources.values)
    (location : Location) :
    (∃ q, referenceOf location (.string r.reference.text) = .ok q ∧ c.get? q = some r) ↔
      r.reference.ReadsBack := by
  rw [← Reference.readsBack_iff (h.isMade hr)]
  refine exists_congr fun q => and_congr ?_ (h.keyed.get?_eq_some_iff hr)
  rw [referenceOf]
  cases Reference.ofText? r.reference.text with
  | none => simp
  | some q' => simp

/-- A resource is found by its own text, and a string with this text resolves to it, exactly if the
text is read back.  Otherwise the answer is what stands under the reference that is read; texts that
begin with a bracket are not read at all, but looked for as they are. -/
theorem resource?_text_iff (h : c.IsBuilt) (hr : r ∈ c.resources.values) :
    (c.resource? r.reference.text = some r ↔
      r.reference.ReadsBack ∨ r.reference.writtenType = []) ∧
    (∀ location, (∃ q, referenceOf location (.string r.reference.text) = .ok q ∧
      c.get? q = some r) ↔ r.reference.ReadsBack) ∧
    (r.reference.writtenType ≠ [] → c.resource? r.reference.text =
      c.get? (.of (String.ofList r.reference.writtenType)
        (String.ofList (Reference.bare r.reference.writtenTitle)))) := by
  refine ⟨?_, exists_referenceOf_text_iff h hr, fun htype => ?_⟩
  · rw [← Reference.readsBack_iff (h.isMade hr), resource?, Reference.ofText?_text]
    by_cases htype : r.reference.writtenType = []
    · rw [if_pos htype]
      have hget : c.resources.get? r.reference.text = some r := h.keyed.get?_eq hr
      simp [hget, htype]
    · rw [if_neg htype]
      simp [h.keyed.get?_eq_some_iff hr, htype]
  · rw [resource?, Reference.ofText?_text, if_neg htype]

/-- Brackets in a title are no obstacle. -/
theorem resource?_text_iff_sample :
    let box : Resource := Resource.new (.of "box" "a][b]") 0 ⟨"site.pp", 1, 1⟩
    let c : Catalog := (new "web1" "production").after [.add box]
    c.IsBuilt ∧ box ∈ c.resources.values ∧ c.resource? "Box[a][b]]" = some box := by
  intro box c
  have hmade : box.reference.IsMade := ⟨"box", "a][b]", by decide, rfl⟩
  have hbuilt : c.IsBuilt := by
    refine ⟨"web1", "production", _, List.forall_mem_singleton.mpr ?_, rfl⟩
    exact List.forall_mem_singleton.mpr hmade
  have hmem : box ∈ c.resources.values := by decide +kernel
  have htext : box.reference.text = "Box[a][b]]" := by decide +kernel
  have hreads : box.reference.ReadsBack :=
    (Reference.readsBack_iff hmade).mp ⟨box.reference, by decide +kernel, rfl⟩
  exact ⟨hbuilt, hmem, htext ▸ (resource?_text_iff hbuilt hmem).1.mpr (.inl hreads)⟩

/-- The text of a resource with blanks around its title finds another resource, and without that one
it finds none.  The same happens to quotes, and to titles of classes that change once more. -/
theorem resource?_text_padded :
    let resource (type title : String) : Resource :=
      Resource.new (.of type title) 0 ⟨"site.pp", 1, 1⟩
    let holding (rs : List Resource) : Catalog := (new "n" "production").after (rs.map .add)
    let padded := resource "notify" " x "
    let quoted := resource "notify" "'x'"
    let sharp := resource "class" "ß"
    (holding [padded]).resource? padded.reference.text = none ∧
      (holding [padded, resource "notify" "x"]).resource? padded.reference.text =
        some (resource "notify" "x") ∧
      (holding [quoted]).resource? quoted.reference.text = none ∧
      (holding [sharp]).resource? sharp.reference.text = none := by
  decide +kernel

end Catalog

end Manifest

import VllmSourceGateway.CatalogPage

set_option autoImplicit false

/-! No configured text adds markup to the catalog's page: what is shown of an entry
decides its tags, and no more than whether it has a display name and how long its
lists are is seen in them. -/
namespace VllmSourceGateway.CatalogMarkup
open CatalogConfig CatalogTemplate HtmlText CatalogPage
open Availability hiding summaryCards

/-- All that the tags of a card depend on. -/
structure CardShape where
  displayName : Bool
  useCases : ℕ
  apiPaths : ℕ
  recommendedFor : ℕ
  knownLimits : ℕ
  deriving DecidableEq

def cardShape (catalogEntry : Option ModelCatalogEntry) : CardShape where
  displayName := documented (fieldOf ModelCatalogEntry.displayName catalogEntry)
  useCases := (listOf ModelCatalogEntry.useCases catalogEntry).length
  apiPaths := (listOf ModelCatalogEntry.apiPaths catalogEntry).length
  recommendedFor := (listOf ModelCatalogEntry.recommendedFor catalogEntry).length
  knownLimits := (listOf ModelCatalogEntry.knownLimits catalogEntry).length

def pageShape (models : List ModelAvailability) (modelCatalog : List (String × ModelCatalogEntry)) :
    List CardShape :=
  models.map fun model => cardShape (PyDict.get? modelCatalog model.modelName)

/-- Where validation accepts an entry, its display name is present unless it is
absent. -/
theorem documented_displayName {unicode : UnicodeTables} {raw entry : ModelCatalogEntry}
    (h : normalizeFields unicode raw = .ok entry) :
    documented entry.displayName = entry.displayName.isSome := by
  simp only [normalizeFields] at h
  split at h
  · cases h
  · split at h
    · cases h
      cases hname : normalizeOptionalString raw.displayName with
      | none => rfl
      | some name =>
        obtain ⟨value, _, hvalue⟩ := Option.bind_eq_some_iff.mp hname
        exact decide_eq_true (strippedOrNone_some hvalue).1
    · cases h

theorem markup_toString (n : ℕ) : markup (toString n) = [] := by
  rw [markup, Nat.toString_eq_ofList_toDigits, String.toList_ofList, List.filter_eq_nil_iff]
  intro c hc
  have hdigit := Nat.isDigit_of_mem_toDigits (by decide) (by decide) hc
  simp only [isMarkup, Bool.or_eq_true, decide_eq_true_eq]
  rintro ((rfl | rfl) | rfl) <;> exact absurd hdigit (by decide)

theorem markup_text (value : TextValue) : markup (text value) = [] := by
  have hmissing : markup "Not documented" = [] := by simp [markup, isMarkup]
  cases value with
  | none => exact hmissing
  | int value => exact markup_escape _
  | str value =>
    simp only [text]
    split
    · exact hmissing
    · exact markup_escape _

theorem markup_displayName_eq {value value' : Option String}
    (h : documented value = documented value') :
    markup (displayName value) = markup (displayName value') := by
  simp only [displayName, h]
  split
  · simp only [markup_append, markup_escape]
  · rfl

/-- Items that all have the same tags. -/
theorem markup_items {item : String → String} {tags : PyText.Text}
    (hitem : ∀ value, markup (item value) = tags) (values : List String) :
    markup (String.join (values.map item)) = (List.replicate values.length tags).flatten := by
  have hreplicate : (values.map item).map markup = List.replicate values.length tags := by
    rw [List.map_map]
    exact List.map_eq_replicate_iff.mpr fun value _ => hitem value
  rw [markup_join, hreplicate]

theorem eq_nil_iff_of_length {values values' : List String} (h : values.length = values'.length) :
    values = [] ↔ values' = [] := by
  rw [← List.length_eq_zero_iff, ← List.length_eq_zero_iff, h]

theorem markup_chips_eq {values values' : List String} (h : values.length = values'.length) :
    markup (chips values) = markup (chips values') := by
  have hitem (value : String) :
      markup ("<span class=\"chip\">" ++ escape value ++ "</span>") =
        markup "<span class=\"chip\">" ++ markup "</span>" := by
    rw [markup_append, markup_append, markup_escape, List.append_nil]
  simp only [chips, eq_nil_iff_of_length h]
  split
  · rfl
  · rw [markup_items hitem, markup_items hitem, h]

theorem markup_bulletList_eq {values values' : List String} (h : values.length = values'.length) :
    markup (bulletList values) = markup (bulletList values') := by
  have hitem (value : String) :
      markup ("<li>" ++ escape value ++ "</li>") = markup "<li>" ++ markup "</li>" := by
    rw [markup_append, markup_append, markup_escape, List.append_nil]
  simp only [bulletList, eq_nil_iff_of_length h]
  split
  · rfl
  · rw [markup_append, markup_append, markup_items hitem, markup_append, markup_append,
      markup_items hitem, h]

theorem markup_renderCard_eq {model model' : ModelAvailability}
    {catalogEntry catalogEntry' : Option ModelCatalogEntry}
    (h : cardShape catalogEntry = cardShape catalogEntry') :
    markup (renderCard model catalogEntry) = markup (renderCard model' catalogEntry') := by
  simp only [cardShape, CardShape.mk.injEq] at h
  obtain ⟨hname, huses, hpaths, hrecommended, hlimits⟩ := h
  simp only [renderCard, markup_lines, List.map_cons, List.map_nil, markup_append, markup_escape,
    markup_text, markup_toString, exampleCurl, markup_displayName_eq hname,
    markup_chips_eq huses, markup_chips_eq hpaths, markup_bulletList_eq hrecommended,
    markup_bulletList_eq hlimits]

theorem markup_summaryCards_eq (models models' : List ModelAvailability) :
    markup (summaryCards models) = markup (summaryCards models') := by
  simp only [summaryCards, markup_lines, List.map_cons, List.map_nil, markup_append,
    markup_toString]

/-- Lists that look the same to one function look the same to another one, where it
sees no more. -/
theorem map_eq_map_of {α β γ δ : Type} {f : α → γ} {f' : β → γ} {g : α → δ} {g' : β → δ}
    (hg : ∀ x y, f x = f' y → g x = g' y) {xs : List α} {ys : List β}
    (h : xs.map f = ys.map f') : xs.map g = ys.map g' := by
  induction xs generalizing ys with
  | nil =>
    rw [List.map_nil, eq_comm, List.map_eq_nil_iff] at h
    rw [h, List.map_nil, List.map_nil]
  | cons x xs ih =>
    cases ys with
    | nil => cases h
    | cons y ys =>
      obtain ⟨hhead, htail⟩ := List.cons.inj h
      rw [List.map_cons, List.map_cons, hg x y hhead, ih htail]

theorem catalog_markup_eq {models models' : List ModelAvailability}
    {modelCatalog modelCatalog' : List (String × ModelCatalogEntry)}
    (h : pageShape models modelCatalog = pageShape models' modelCatalog') :
    markup (renderCatalogPage models modelCatalog) =
      markup (renderCatalogPage models' modelCatalog') := by
  have hcard (model model' : ModelAvailability)
      (hshape : cardShape (PyDict.get? modelCatalog model.modelName) =
        cardShape (PyDict.get? modelCatalog' model'.modelName)) :
      markup (renderCard model (PyDict.get? modelCatalog model.modelName)) =
        markup (renderCard model' (PyDict.get? modelCatalog' model'.modelName)) :=
    markup_renderCard_eq hshape
  have hcards := map_eq_map_of hcard h
  simp only [renderCatalogPage, markup_append, markup_lines, List.map_map, Function.comp_def,
    hcards, markup_summaryCards_eq models models']

def entryOf (value : String) : ModelCatalogEntry where
  displayName := some value
  hostedOn := some value
  useCases := [value, value]
  apiPaths := [value]
  contextWindow := none
  recommendedFor := []
  knownLimits := [value]
  examplePrompt := some value

theorem catalog_markup_eq_script :
    markup (renderCatalogPage [⟨"<b>", 2, 1⟩] [("<b>", entryOf "<script>\"alert\"</script>")]) =
      markup (renderCatalogPage [⟨"llama", 1, 1⟩] [("llama", entryOf "chat")]) :=
  catalog_markup_eq (by decide +kernel)

end VllmSourceGateway.CatalogMarkup

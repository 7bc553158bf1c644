import Backoffice.Field
import Backoffice.Proofs.Json.Decode
import Backoffice.Proofs.Json.Ordered
import Mathlib.Data.List.Nodup

namespace Backoffice.FieldSets

def listed (uiSchema : Json) : List String :=
  ((uiSchema.get? "ui:order").map Json.asStrings).getD []

def fieldOf (schema uiSchema : Json) (properties : Record) (name : String) : Field :=
  Field.ofProperty name ((Entries.get? name properties).getD .null) (uiSchema.get? name)
    ((((schema.get? "required").map Json.asStrings).getD []).contains name)

def Hidden (uiSchema : Json) (name : String) : Prop :=
  ∃ ui, uiSchema.get? name = some ui ∧
    (ui.get? "ui:hidden" = some (.bool true) ∨ ui.get? "ui:widget" = some (.str "hidden"))

def Shown (uiSchema : Json) (properties : Record) (name : String) : Prop :=
  name ∈ properties.map (·.1) ∧ ¬Hidden uiSchema name

variable {schema uiSchema : Json} {properties : Record} {name : String}

theorem hides_iff {ui : Option Json} :
    (Field.uiFlag ui ["ui:hidden"] || Field.uiText? ui "ui:widget" == some "hidden") = true ↔
      ∃ v, ui = some v ∧
        (v.get? "ui:hidden" = some (.bool true) ∨ v.get? "ui:widget" = some (.str "hidden")) := by
  cases ui with
  | none => simp [Field.uiFlag, Field.uiText?]
  | some v =>
    simp [Field.uiFlag, Field.uiText?, Option.getD_eq_iff, Option.bind_eq_some_iff,
      Json.asBool?_eq_some_iff, Json.asStr?_eq_some_iff]

instance : Decidable (Hidden uiSchema name) := decidable_of_iff _ hides_iff

instance : DecidablePred (Shown uiSchema properties) := fun _ => inferInstanceAs (Decidable (_ ∧ _))

def formNames (uiSchema : Json) (properties : Record) : List String :=
  (listed uiSchema).filter (Shown uiSchema properties) ++
    (properties.map (·.1)).filter fun name => Shown uiSchema properties name ∧ name ∉ listed uiSchema

/-- Every property that is shown has one field in form and detail, and at most one in list and
filters; there are no other fields, and those that `ui:order` lists come first, in its order. -/
structure EachOnce (uiSchema : Json) (properties : Record) (s : FieldSets) : Prop where
  form : ∀ name, Shown uiSchema properties name → (s.form.map (·.name)).count name = 1
  detail : s.detail = s.form
  shown : ∀ f ∈ s.form ++ s.detail ++ s.list ++ s.filters, Shown uiSchema properties f.name
  list : (s.list.map (·.name)).Nodup
  filters : (s.filters.map (·.name)).Nodup
  order : (listed uiSchema).filter (Shown uiSchema properties) <+: s.form.map (·.name)

/-- The form has the fields by the names in their order, and the other sets choose among them. -/
structure Arranged (schema uiSchema : Json) (properties : Record) (s : FieldSets) : Prop where
  form : s.form = (formNames uiSchema properties).map (fieldOf schema uiSchema properties)
  detail : s.detail = s.form
  list : s.list.Sublist s.form
  filters : s.filters.Sublist s.form

theorem filter_orderedNames :
    (orderedNames properties uiSchema).filter (Shown uiSchema properties) =
      formNames uiSchema properties := by
  have hknown : ∀ n, Shown uiSchema properties n → (Entries.get? n properties).isSome = true :=
    fun n h => Entries.isSome_get?_iff.2 h.1
  rw [orderedNames, formNames, List.filter_append, List.filter_filter, List.filter_filter]
  congr 1
  · refine List.filter_congr fun n _ => ?_
    by_cases h : Shown uiSchema properties n <;> simp [h, hknown]
  · refine List.filter_congr fun n _ => ?_
    by_cases h : Shown uiSchema properties n <;> simp [h, hknown, listed]

theorem mem_keys_of_mem_orderedNames (h : name ∈ orderedNames properties uiSchema) :
    name ∈ properties.map (·.1) := by
  rw [orderedNames, List.mem_append] at h
  rcases h with h | h
  · exact Entries.isSome_get?_iff.1 (List.mem_filter.1 h).2
  · exact (List.mem_filter.1 h).1

theorem hidden_fieldOf :
    (fieldOf schema uiSchema properties name).hidden = decide (Hidden uiSchema name) := by
  rw [Bool.eq_iff_iff, decide_eq_true_iff]
  exact hides_iff

theorem filterMap_unless {α β : Type} (p : α → Bool) (g : α → β) (xs : List α) :
    xs.filterMap (fun x => if p x then none else some (g x)) = (xs.filter fun x => !p x).map g := by
  induction xs with
  | nil => rfl
  | cons x xs ih => cases h : p x <;> simp [h, ih]

def ofShown (shown : List (Field × Option Json)) : FieldSets :=
  let fields := shown.map (·.1)
  let marked := (shown.filter fun (_, ui) => Field.uiFlag ui ["ui:list"]).map (·.1)
  { list := if marked.isEmpty then (fields.filter (·.kind.isScalar)).take defaultColumns else marked
    form := fields
    detail := fields
    filters := (shown.filter fun (f, ui) =>
      f.kind == .select || f.kind == .boolean || Field.uiFlag ui ["ui:filter"]).map (·.1) }

theorem ofSchemas_eq (h : schema.get? "properties" = some (.obj properties)) :
    ofSchemas schema uiSchema = ofShown ((formNames uiSchema properties).map fun n =>
      (fieldOf schema uiSchema properties n, uiSchema.get? n)) := by
  have hproperties : (schema.get? "properties").bind Json.asObj? = some properties := by
    rw [h]
    rfl
  have hvisible : ∀ n ∈ orderedNames properties uiSchema,
      (!(fieldOf schema uiSchema properties n).hidden) = decide (Shown uiSchema properties n) := by
    intro n hn
    simp [hidden_fieldOf, Shown, mem_keys_of_mem_orderedNames hn]
  calc ofSchemas schema uiSchema
      = ofShown ((orderedNames properties uiSchema).filterMap fun n =>
          if (fieldOf schema uiSchema properties n).hidden then none
          else some (fieldOf schema uiSchema properties n, uiSchema.get? n)) := by
        rw [ofSchemas, hproperties]
        rfl
    _ = _ := by rw [filterMap_unless, List.filter_congr hvisible, filter_orderedNames]

theorem sublist_ofShown (shown : List (Field × Option Json)) :
    (ofShown shown).list.Sublist (shown.map (·.1)) ∧
      (ofShown shown).filters.Sublist (shown.map (·.1)) := by
  constructor
  · simp only [ofShown]
    split
    · exact (List.take_sublist _ _).trans List.filter_sublist
    · exact List.filter_sublist.map _
  · exact List.filter_sublist.map _

theorem arranged_ofSchemas (h : schema.get? "properties" = some (.obj properties)) :
    Arranged schema uiSchema properties (ofSchemas schema uiSchema) := by
  rw [ofSchemas_eq h]
  constructor
  case form => exact List.map_map
  case detail => rfl
  case list => exact (sublist_ofShown _).1
  case filters => exact (sublist_ofShown _).2

theorem Arranged.names {s : FieldSets} (h : Arranged schema uiSchema properties s) :
    s.form.map (·.name) = formNames uiSchema properties := by
  rw [h.form, List.map_map]
  exact List.map_id _

theorem count_formNames (hkeys : (properties.map (·.1)).Nodup) (name : String) :
    (formNames uiSchema properties).count name =
      if Shown uiSchema properties name then max 1 ((listed uiSchema).count name) else 0 := by
  rw [formNames, List.count_append]
  split
  · rename_i hshown
    rw [List.count_filter (by simpa using hshown)]
    by_cases hlisted : name ∈ listed uiSchema
    · have hrest : name ∉ (properties.map (·.1)).filter fun n =>
          Shown uiSchema properties n ∧ n ∉ listed uiSchema := by simp [hlisted]
      have hpos := List.count_pos_iff.2 hlisted
      rw [List.count_eq_zero_of_not_mem hrest]
      omega
    · rw [List.count_filter (by simp [hshown, hlisted]), List.count_eq_zero_of_not_mem hlisted,
        List.count_eq_one_of_mem hkeys hshown.1]
      rfl
  · rename_i hshown
    rw [List.count_eq_zero_of_not_mem (by simp [hshown]),
      List.count_eq_zero_of_not_mem (by simp [hshown])]

theorem nodup_formNames_iff (hkeys : (properties.map (·.1)).Nodup) :
    (formNames uiSchema properties).Nodup ↔
      ((listed uiSchema).filter (Shown uiSchema properties)).Nodup := by
  rw [formNames, List.nodup_append']
  refine and_iff_left ⟨hkeys.filter _, fun n hlisted hother => ?_⟩
  exact (of_decide_eq_true (List.mem_filter.1 hother).2).2 (List.mem_filter.1 hlisted).1

theorem shown_of_mem_formNames (h : name ∈ formNames uiSchema properties) :
    Shown uiSchema properties name := by
  rw [formNames, List.mem_append] at h
  rcases h with h | h
  · exact of_decide_eq_true (List.mem_filter.1 h).2
  · exact (of_decide_eq_true (List.mem_filter.1 h).2).1

theorem mem_formNames (h : Shown uiSchema properties name) :
    name ∈ formNames uiSchema properties := by
  by_cases hlisted : name ∈ listed uiSchema
  · exact List.mem_append_left _ (List.mem_filter.2 ⟨hlisted, decide_eq_true h⟩)
  · exact List.mem_append_right _ (List.mem_filter.2 ⟨h.1, decide_eq_true ⟨h, hlisted⟩⟩)

theorem Arranged.eachOnce {s : FieldSets} (h : Arranged schema uiSchema properties s)
    (hnodup : (formNames uiSchema properties).Nodup) : EachOnce uiSchema properties s := by
  have hform : (s.form.map (·.name)).Nodup := h.names ▸ hnodup
  constructor
  case form =>
    intro name hshown
    rw [h.names]
    exact List.count_eq_one_of_mem hnodup (mem_formNames hshown)
  case detail => exact h.detail
  case shown =>
    intro f hf
    have hmem : f ∈ s.form := by
      simp only [List.mem_append, h.detail] at hf
      rcases hf with ((hf | hf) | hf) | hf
      · exact hf
      · exact hf
      · exact h.list.subset hf
      · exact h.filters.subset hf
    exact shown_of_mem_formNames (h.names ▸ List.mem_map_of_mem hmem)
  case list => exact hform.sublist (h.list.map _)
  case filters => exact hform.sublist (h.filters.map _)
  case order =>
    rw [h.names]
    exact List.prefix_append _ _

/-- The fields of the form are those of the properties that are shown, and each is there as often as
`ui:order` lists it, or once if that does not list it. -/
theorem eachOnce_iff (hschema : schema.Ordered)
    (h : schema.get? "properties" = some (.obj properties)) :
    Arranged schema uiSchema properties (ofSchemas schema uiSchema) ∧
      (∀ name, ((ofSchemas schema uiSchema).form.map (·.name)).count name =
        if Shown uiSchema properties name then max 1 ((listed uiSchema).count name) else 0) ∧
      (EachOnce uiSchema properties (ofSchemas schema uiSchema) ↔
        ((listed uiSchema).filter (Shown uiSchema properties)).Nodup) := by
  have hkeys : (properties.map (·.1)).Nodup := Dict.nodup_keys ⟨properties, (hschema.get? h).sorted⟩
  have harranged : Arranged schema uiSchema properties (ofSchemas schema uiSchema) :=
    arranged_ofSchemas h
  refine ⟨harranged, fun name => ?_, fun honce => ?_, fun hnodup => ?_⟩
  · rw [harranged.names]
    exact count_formNames hkeys name
  · rw [← nodup_formNames_iff hkeys, ← harranged.names, List.nodup_iff_count_eq_one]
    intro name hname
    obtain ⟨f, hf, rfl⟩ := List.mem_map.1 hname
    exact honce.form f.name (honce.shown f (by simp [hf]))
  · exact harranged.eachOnce ((nodup_formNames_iff hkeys).2 hnodup)

def article : Record :=
  [("body", .obj []), ("rank", .obj [("type", .str "integer")]), ("title", .obj [])]

def articleSchema : Json := .obj [("properties", .obj article), ("required", .ofStrings ["title"])]

def articleUi (order : List String) : Json :=
  .obj [("body", .obj [("ui:hidden", .bool true)]), ("ui:order", .ofStrings order)]

theorem ordered_article : articleSchema.Ordered := by
  have htidy : articleSchema.tidy = articleSchema := rfl
  exact htidy ▸ Json.ordered_tidy articleSchema

/-- The title is listed before the rank, with a name that no property has. -/
theorem eachOnce_iff_article :
    articleSchema.Ordered ∧ articleSchema.get? "properties" = some (.obj article) ∧
      EachOnce (articleUi ["title", "lost", "rank"]) article
        (ofSchemas articleSchema (articleUi ["title", "lost", "rank"])) ∧
      ((ofSchemas articleSchema (articleUi ["title", "lost", "rank"])).form.map (·.name)).count
        "body" = 0 := by
  obtain ⟨-, hcount, honce⟩ :=
    @eachOnce_iff articleSchema (articleUi ["title", "lost", "rank"]) article ordered_article rfl
  exact ⟨ordered_article, rfl, honce.2 (by decide), (hcount "body").trans (by decide)⟩

/-- A name that `ui:order` lists twice has two fields. -/
theorem twice_listed :
    articleSchema.Ordered ∧ articleSchema.get? "properties" = some (.obj article) ∧
      ¬EachOnce (articleUi ["title", "title"]) article
        (ofSchemas articleSchema (articleUi ["title", "title"])) := by
  refine ⟨ordered_article, rfl, fun honce => ?_⟩
  have hone := honce.form "title" (by decide)
  have htwo : ((ofSchemas articleSchema (articleUi ["title", "title"])).form.map (·.name)).count
      "title" = 2 := rfl
  rw [htwo] at hone
  cases hone

end Backoffice.FieldSets

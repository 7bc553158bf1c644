import Backoffice.Field
import Backoffice.Proofs.Json.Decode
import Backoffice.Proofs.Json.Ordered

namespace Backoffice.FormSchema

variable {fields : List Field} {content : Option Json} {name key : String} {p : Record} {on : Bool}

def hints (f : Field) : Record :=
  [("type", .str f.kind.schemaType), ("title", .str f.label)] ++
    Json.optional "format" .str f.kind.schemaFormat? ++
    (if f.options.isEmpty then [] else [("enum", .ofStrings f.options)]) ++
    Json.optional "default" id f.default ++ [("x-field-type", .str f.kind.name)]

theorem property_eq (f : Field) (p : Record) : property f p = Entries.setAll (hints f) p := rfl

def members (v : Option Json) : Record := (v.bind Json.asObj?).getD []

def propertiesOf (schema : Option Json) : Record := members (schema.bind (Json.get? "properties"))

def requiredOf (schema : Option Json) : List String :=
  ((schema.bind (Json.get? "required")).map Json.asStrings).getD []

def merged (fields : List Field) (ps : Record) : Record :=
  fields.foldl (fun ps f =>
    Entries.set f.name (.obj (property f (members (Entries.get? f.name ps)))) ps) ps

def marked (fields : List Field) (ps : Record) : Record :=
  ps.map fun (name, v) => (name, markReadOnly fields name v)

def needed (fields : List Field) (names : List String) : List String :=
  fields.foldl (fun names f =>
    if f.required && !names.contains f.name then names ++ [f.name] else names) names

theorem build_eq (fields : List Field) (content : Option Json) : build fields content =
    .ofFields [("type", .str "object"),
      ("properties", .obj (marked fields (merged fields (propertiesOf content)))),
      ("required", .ofStrings (needed fields (requiredOf content)))] := by
  rw [build]
  rfl

theorem get?_build (fields : List Field) (content : Option Json) :
    (build fields content).get? "properties" =
        some (.obj (marked fields (merged fields (propertiesOf content)))) ∧
      (build fields content).get? "required" =
        some (.ofStrings (needed fields (requiredOf content))) := by
  rw [build_eq, Json.ofFields, Json.get?, Json.get?]
  simp [Entries.get?_ofList_cons]

@[simp] theorem propertiesOf_build (fields : List Field) (content : Option Json) :
    propertiesOf (some (build fields content)) =
      marked fields (merged fields (propertiesOf content)) := by
  rw [propertiesOf, Option.bind_some, (get?_build fields content).1]
  rfl

@[simp] theorem requiredOf_build (fields : List Field) (content : Option Json) :
    requiredOf (some (build fields content)) = needed fields (requiredOf content) := by
  rw [requiredOf, Option.bind_some, (get?_build fields content).2]
  exact Json.asStrings_ofStrings _

def named (fields : List Field) (name : String) : List Field :=
  fields.filter (·.name == name)

theorem named_eq_nil_iff : named fields name = [] ↔ ∀ f ∈ fields, f.name ≠ name := by
  simp [named, List.filter_eq_nil_iff]

theorem get?_merged (fields : List Field) (name : String) (ps : Record) :
    Entries.get? name (merged fields ps) =
      if named fields name = [] then Entries.get? name ps
      else some (.obj (Entries.setAll ((named fields name).flatMap hints)
        (members (Entries.get? name ps)))) := by
  induction fields generalizing ps with
  | nil => rfl
  | cons f fields ih =>
    have hcons : merged (f :: fields) ps = merged fields
        (Entries.set f.name (.obj (property f (members (Entries.get? f.name ps)))) ps) := rfl
    rw [hcons, ih, Entries.get?_set]
    by_cases h : f.name = name
    · have hnamed : named (f :: fields) name = f :: named fields name := by simp [named, h]
      subst h
      rw [hnamed, if_pos rfl, if_neg (List.cons_ne_nil _ _), List.flatMap_cons,
        Entries.setAll_append, ← property_eq]
      split
      · rename_i hnone
        rw [hnone]
        rfl
      · rfl
    · have hnamed : named (f :: fields) name = named fields name := by simp [named, h]
      rw [hnamed, if_neg (Ne.symm h)]

theorem get?_marked (fields : List Field) (name : String) (ps : Record) :
    Entries.get? name (marked fields ps) =
      (Entries.get? name ps).map (markReadOnly fields name) := by
  induction ps with
  | nil => rfl
  | cons e ps ih =>
    obtain ⟨k, v⟩ := e
    have hcons : marked fields ((k, v) :: ps) =
        (k, markReadOnly fields k v) :: marked fields ps := rfl
    rw [hcons, Entries.get?, Entries.get?, ih]
    split
    · rename_i hk
      rw [hk]
      rfl
    · rfl

theorem sorted_merged {ps : Record} (h : Entries.Sorted ps) (fields : List Field) :
    Entries.Sorted (merged fields ps) := by
  induction fields generalizing ps with
  | nil => exact h
  | cons f fields ih => exact ih (h.set _ _)

theorem sorted_marked {ps : Record} (h : Entries.Sorted ps) (fields : List Field) :
    Entries.Sorted (marked fields ps) :=
  List.pairwise_map.2 h

theorem get?_hints (fs : List Field) (h : key = "readOnly" ∨ key = "read_only") :
    Entries.get? key (Entries.ofList (fs.flatMap hints)) = none := by
  induction fs with
  | nil => rfl
  | cons f fs ih =>
    rw [List.flatMap_cons, Entries.get?_ofList_append, ih, Option.none_or, hints]
    rcases h with rfl | rfl <;> cases f.options.isEmpty <;>
      simp [Entries.get?_ofList_append, Entries.get?_ofList_cons]

def isReadOnly (fields : List Field) (name : String) (p : Record) : Bool :=
  flag p "readOnly" || flag p "read_only" || fields.any fun f => f.name == name && f.readOnly

def marks (on : Bool) (p : Record) : Record :=
  Entries.set "read_only" (.bool on) (Entries.set "readOnly" (.bool on) p)

theorem markReadOnly_obj (fields : List Field) (name : String) (p : Record) :
    markReadOnly fields name (.obj p) = .obj (marks (isReadOnly fields name p) p) := rfl

theorem get?_marks (on : Bool) (key : String) (p : Record) :
    Entries.get? key (marks on p) =
      if key = "readOnly" ∨ key = "read_only" then some (.bool on) else Entries.get? key p := by
  rw [marks, Entries.get?_set, Entries.get?_set]
  by_cases h : key = "read_only" <;> simp [h]

theorem flag_marks (h : key = "readOnly" ∨ key = "read_only") : flag (marks on p) key = on := by
  rw [flag, get?_marks, if_pos h]
  rfl

theorem isReadOnly_marks (h : isReadOnly fields name p = on) :
    isReadOnly fields name (marks on p) = on := by
  rw [isReadOnly, flag_marks (.inl rfl), flag_marks (.inr rfl)]
  rw [isReadOnly] at h
  revert h
  cases on <;> simp

theorem isReadOnly_setAll (fs : List Field) :
    isReadOnly fields name (Entries.setAll (fs.flatMap hints) p) = isReadOnly fields name p := by
  have hflag : ∀ key, key = "readOnly" ∨ key = "read_only" →
      flag (Entries.setAll (fs.flatMap hints) p) key = flag p key := by
    intro key h
    rw [flag, Entries.get?_setAll, ← Entries.get?_ofList, get?_hints fs h, Option.none_or, flag]
  rw [isReadOnly, hflag _ (.inl rfl), hflag _ (.inr rfl), isReadOnly]

theorem marks_again (hp : Entries.Sorted p) (es : Record) :
    marks on (Entries.setAll es (marks on (Entries.setAll es p))) = marks on (Entries.setAll es p) := by
  have hsorted : ∀ {q : Record}, Entries.Sorted q → Entries.Sorted (marks on q) :=
    fun hq => (hq.set _ _).set _ _
  refine Entries.eq_of_get? (hsorted ((hsorted (hp.setAll es)).setAll es)) (hsorted (hp.setAll es))
    fun key => ?_
  rw [get?_marks, get?_marks]
  split
  · rfl
  · rename_i h
    rw [Entries.get?_setAll, get?_marks, if_neg h, Entries.get?_setAll, ← Option.or_assoc, Option.or_self]

theorem mark_again (fields : List Field) (name : String) (hp : Entries.Sorted p)
    (fs : List Field) :
    markReadOnly fields name (.obj (Entries.setAll (fs.flatMap hints)
        (marks (isReadOnly fields name p) (Entries.setAll (fs.flatMap hints) p)))) =
      .obj (marks (isReadOnly fields name p) (Entries.setAll (fs.flatMap hints) p)) := by
  have hsame : isReadOnly fields name (Entries.setAll (fs.flatMap hints)
      (marks (isReadOnly fields name p) (Entries.setAll (fs.flatMap hints) p))) =
        isReadOnly fields name p := by
    rw [isReadOnly_setAll]
    exact isReadOnly_marks (isReadOnly_setAll fs)
  rw [markReadOnly_obj, hsame, marks_again hp]

theorem markReadOnly_setAll (fs : List Field) :
    markReadOnly fields name (.obj (Entries.setAll (fs.flatMap hints) p)) =
      .obj (marks (isReadOnly fields name p) (Entries.setAll (fs.flatMap hints) p)) := by
  rw [markReadOnly_obj, isReadOnly_setAll]

theorem ordered_members {v : Option Json} (h : ∀ w ∈ v, w.Ordered) :
    (Json.obj (members v)).Ordered := by
  have hempty : (Json.obj []).Ordered := .obj .nil (by simp)
  cases v with
  | none => exact hempty
  | some w =>
    cases w with
    | obj p => exact h _ rfl
    | _ => exact hempty

theorem markReadOnly_again {v : Json} (hv : v.Ordered) :
    markReadOnly fields name (markReadOnly fields name v) = markReadOnly fields name v := by
  cases v with
  | obj p => exact mark_again fields name hv.sorted []
  | _ => rfl

theorem marked_merged_again {ps : Record} (hps : (Json.obj ps).Ordered) (fields : List Field) :
    marked fields (merged fields (marked fields (merged fields ps))) =
      marked fields (merged fields ps) := by
  have hsorted := sorted_marked (sorted_merged hps.sorted fields) fields
  refine Entries.eq_of_get? (sorted_marked (sorted_merged hsorted fields) fields) hsorted
    fun name => ?_
  simp only [get?_marked, get?_merged]
  by_cases hnone : named fields name = []
  · simp only [if_pos hnone]
    cases hv : Entries.get? name ps with
    | none => rfl
    | some v => exact congrArg some (markReadOnly_again (hps.get? hv))
  · have hp : Entries.Sorted (members (Entries.get? name ps)) :=
      (ordered_members fun _ hw => hps.get? hw).sorted
    simp only [if_neg hnone, Option.map_some]
    rw [markReadOnly_setAll (p := members (Entries.get? name ps))]
    exact congrArg some (mark_again fields name hp (named fields name))

theorem mem_needed_iff {names : List String} :
    name ∈ needed fields names ↔ name ∈ names ∨ ∃ f ∈ fields, f.required = true ∧ f.name = name := by
  induction fields generalizing names with
  | nil => simp [needed]
  | cons f fields ih =>
    have hcons : needed (f :: fields) names = needed fields
        (if f.required && !names.contains f.name then names ++ [f.name] else names) := rfl
    simp only [hcons, ih, List.mem_cons, or_and_right, exists_or, exists_eq_left]
    rw [← or_assoc]
    refine or_congr_left ?_
    by_cases hrequired : f.required = true
    · by_cases hmem : f.name ∈ names
      · have hsame : f.name = name → name ∈ names := fun h => h ▸ hmem
        simpa [hrequired, hmem] using hsame
      · simp [hrequired, hmem, eq_comm]
    · simp [hrequired]

theorem needed_of_mem {names : List String}
    (h : ∀ f ∈ fields, f.required = true → f.name ∈ names) : needed fields names = names := by
  induction fields with
  | nil => rfl
  | cons f fields ih =>
    have hcons : needed (f :: fields) names = needed fields
        (if f.required && !names.contains f.name then names ++ [f.name] else names) := rfl
    have hhead : (f.required && !names.contains f.name) = false := by
      by_cases hrequired : f.required = true
      · simp [h f List.mem_cons_self hrequired]
      · simp [hrequired]
    rw [hcons, hhead]
    exact ih fun g hg => h g (List.mem_cons_of_mem _ hg)

theorem needed_again (fields : List Field) (names : List String) :
    needed fields (needed fields names) = needed fields names :=
  needed_of_mem fun f hf hrequired => mem_needed_iff.2 (.inr ⟨f, hf, hrequired, rfl⟩)

def propertyAt (schema : Option Json) (name : String) : Option Json :=
  Entries.get? name (propertiesOf schema)

def MarkedIn (schema : Option Json) (name : String) : Prop :=
  ∃ p, propertyAt schema name = some (.obj p) ∧
    (Entries.get? "readOnly" p = some (.bool true) ∨ Entries.get? "read_only" p = some (.bool true))

/-- What a form schema of fields over a content schema says. -/
structure Exports (fields : List Field) (content : Option Json) (form : Json) : Prop where
  described : ∀ f ∈ fields, ∃ p, propertyAt (some form) f.name = some (.obj p)
  readOnly : ∀ name p, propertyAt (some form) name = some (.obj p) →
    ∃ on, Entries.get? "readOnly" p = some (.bool on) ∧
      Entries.get? "read_only" p = some (.bool on) ∧
      (on = true ↔ MarkedIn content name ∨ ∃ f ∈ fields, f.name = name ∧ f.readOnly = true)
  kept : ∀ name p, propertyAt content name = some (.obj p) → (∀ f ∈ fields, f.name ≠ name) →
    ∃ q, propertyAt (some form) name = some (.obj q) ∧
      ∀ key, key ≠ "readOnly" → key ≠ "read_only" → Entries.get? key q = Entries.get? key p
  untouched : ∀ name v, propertyAt content name = some v → v.asObj? = none →
    (∀ f ∈ fields, f.name ≠ name) → propertyAt (some form) name = some v
  required : ∀ name, name ∈ requiredOf (some form) ↔
    name ∈ requiredOf content ∨ ∃ f ∈ fields, f.required = true ∧ f.name = name

theorem flag_iff : flag p key = true ↔ Entries.get? key p = some (.bool true) := by
  simp [flag, Option.getD_eq_iff, Option.bind_eq_some_iff, Json.asBool?_eq_some_iff]

theorem isReadOnly_iff {v : Option Json} : isReadOnly fields name (members v) = true ↔
    (∃ p, v = some (.obj p) ∧ (Entries.get? "readOnly" p = some (.bool true) ∨
      Entries.get? "read_only" p = some (.bool true))) ∨
    ∃ f ∈ fields, f.name = name ∧ f.readOnly = true := by
  simp only [isReadOnly, Bool.or_eq_true, List.any_eq_true, Bool.and_eq_true, beq_iff_eq, flag_iff]
  refine or_congr_left ?_
  cases v with
  | none => simp [members]
  | some w => cases w <;> simp [members, Json.asObj?]

theorem propertyAt_build (fields : List Field) (content : Option Json) (name : String) :
    propertyAt (some (build fields content)) name =
      (if named fields name = [] then propertyAt content name
      else some (.obj (Entries.setAll ((named fields name).flatMap hints)
        (members (propertyAt content name))))).map (markReadOnly fields name) := by
  rw [propertyAt, propertiesOf_build, get?_marked, get?_merged]
  rfl

theorem eq_marks_of_propertyAt_build
    (h : propertyAt (some (build fields content)) name = some (.obj p)) :
    p = marks (isReadOnly fields name (members (propertyAt content name)))
      (Entries.setAll ((named fields name).flatMap hints) (members (propertyAt content name))) := by
  rw [propertyAt_build] at h
  split at h
  · rename_i hnone
    rw [hnone]
    obtain ⟨v, hv, hmark⟩ := Option.map_eq_some_iff.1 h
    cases v with
    | obj q =>
      cases hmark
      rw [hv]
      rfl
    | _ => cases hmark
  · rw [Option.map_some, markReadOnly_setAll] at h
    cases h
    rfl

/-- A form schema is its own form schema. -/
theorem build_build (hcontent : ∀ s ∈ content, s.Ordered) :
    build fields (some (build fields content)) = build fields content ∧
      Exports fields content (build fields content) := by
  constructor
  · have hps : (Json.obj (propertiesOf content)).Ordered := by
      refine ordered_members fun v hv => ?_
      obtain ⟨s, hs, hv⟩ := Option.bind_eq_some_iff.1 hv
      exact (hcontent s hs).get? hv
    rw [build_eq, propertiesOf_build, requiredOf_build, marked_merged_again hps, needed_again,
      ← build_eq]
  · constructor
    case described =>
      intro f hf
      have hnamed : named fields f.name ≠ [] := fun h => named_eq_nil_iff.1 h f hf rfl
      rw [propertyAt_build, if_neg hnamed]
      exact ⟨_, rfl⟩
    case readOnly =>
      intro name p hp
      rw [eq_marks_of_propertyAt_build hp]
      refine ⟨_, ?_, ?_, isReadOnly_iff⟩
      · rw [get?_marks, if_pos (.inl rfl)]
      · rw [get?_marks, if_pos (.inr rfl)]
    case kept =>
      intro name p hp hother
      rw [propertyAt_build, if_pos (named_eq_nil_iff.2 hother), hp]
      refine ⟨_, rfl, fun key h h' => ?_⟩
      exact (get?_marks _ key p).trans (if_neg (by simp [h, h']))
    case untouched =>
      intro name v hv hobj hother
      rw [propertyAt_build, if_pos (named_eq_nil_iff.2 hother), hv]
      cases v with
      | obj p => cases hobj
      | _ => rfl
    case required =>
      intro name
      rw [requiredOf_build]
      exact mem_needed_iff

def dates : List Field :=
  [{ Field.new "day" .date with required := true }, { Field.new "day" .text with readOnly := true }]

def calendar : Json :=
  .obj [("properties", .obj [("day", .str "any"), ("note", .obj [("maxLength", .ofNat 9),
    ("read_only", .bool true)]), ("odd", .ofNat 7)]), ("required", .ofStrings ["note", "note"])]

theorem build_build_calendar :
    (∀ s ∈ some calendar, s.Ordered) ∧
      build dates (some (build dates (some calendar))) = build dates (some calendar) ∧
      Exports dates (some calendar) (build dates (some calendar)) ∧
      requiredOf (some (build dates (some calendar))) = ["note", "note", "day"] := by
  have hordered : ∀ s ∈ some calendar, s.Ordered := by
    rintro s ⟨⟩
    have htidy : calendar.tidy = calendar := rfl
    exact htidy ▸ Json.ordered_tidy calendar
  obtain ⟨hagain, hexports⟩ := @build_build dates (some calendar) hordered
  exact ⟨hordered, hagain, hexports, rfl⟩

end Backoffice.FormSchema

import Backoffice.Json.Decode
import Backoffice.Text.Key

namespace Backoffice

namespace Field

inductive Kind where
  | text
  | textarea
  | richText
  | number
  | integer
  | boolean
  | date
  | dateTime
  | select
  | media
  | json
  deriving DecidableEq, Repr, Inhabited

namespace Kind

def names : List (String × Kind) :=
  [("text", text), ("textarea", textarea), ("rich_text", richText), ("number", number),
    ("integer", integer), ("boolean", boolean), ("date", date), ("date_time", dateTime),
    ("select", select), ("media", media), ("json", json)]

def name (k : Kind) : String :=
  match names.find? (·.2 == k) with
  | some (s, _) => s
  | none => "text"

def decode : Decoder Kind := Decode.choice names

def schemaType : Kind → String
  | number => "number"
  | integer => "integer"
  | boolean => "boolean"
  | json => "object"
  | _ => "string"

def schemaFormat? : Kind → Option String
  | date => some "date"
  | dateTime => some "date-time"
  | _ => none

def isScalar : Kind → Bool
  | json | richText | media => false
  | _ => true

end Kind

end Field

structure Field where
  name : String
  label : String
  kind : Field.Kind
  required : Bool
  readOnly : Bool
  hidden : Bool
  options : List String
  default : Option Json

namespace Field

def new (name : String) (kind : Kind) : Field :=
  ⟨name, Text.humanize name, kind, false, false, false, [], none⟩

def decode : Decoder Field := Reader.decoder do
  let name ← Reader.required "name" Decode.string
  let label ← Reader.required "label" Decode.string
  let kind ← Reader.required "type" Kind.decode
  let required ← Reader.defaulted "required" false Decode.bool
  let readOnly ← Reader.defaulted "read_only" false Decode.bool
  let hidden ← Reader.defaulted "hidden" false Decode.bool
  let options ← Reader.defaulted "options" [] Decode.strings
  let default ← Reader.optional "default" Decode.value
  pure ⟨name, label, kind, required, readOnly, hidden, options, default⟩

def toJson (f : Field) : Json :=
  .ofFields ([("name", .str f.name), ("label", .str f.label), ("type", .str f.kind.name),
    ("required", .bool f.required), ("read_only", .bool f.readOnly), ("hidden", .bool f.hidden)] ++
    (if f.options.isEmpty then [] else [("options", .ofStrings f.options)]) ++
    Json.optional "default" id f.default)

def uiFlag (ui : Option Json) (keys : List String) : Bool :=
  keys.any fun k => ((ui.bind (Json.get? k)).bind Json.asBool?).getD false

def uiText? (ui : Option Json) (key : String) : Option String :=
  (ui.bind (Json.get? key)).bind Json.asStr?

/-- The kind of a property: by widget, then by choice of values, type and format. -/
def kindOf (property : Json) (ui : Option Json) : Kind :=
  match uiText? ui "ui:widget" with
  | some "textarea" => .textarea
  | some "rich-text" | some "richtext" | some "wysiwyg" => .richText
  | some "media" | some "image" | some "file" => .media
  | some "select" => .select
  | _ =>
    if (property.get? "enum").isSome then .select
    else match (property.get? "type").bind Json.asStr? with
      | some "integer" => .integer
      | some "number" => .number
      | some "boolean" => .boolean
      | some "object" | some "array" => .json
      | _ => match (property.get? "format").bind Json.asStr? with
        | some "date" => .date
        | some "date-time" => .dateTime
        | _ => .text

def ofProperty (name : String) (property : Json) (ui : Option Json) (required : Bool) : Field where
  name := name
  label := ((property.get? "title").bind Json.asStr?).getD (Text.humanize name)
  kind := kindOf property ui
  required := required
  readOnly := ((property.get? "readOnly").bind Json.asBool?).getD false ||
    uiFlag ui ["ui:readonly", "readOnly"]
  hidden := uiFlag ui ["ui:hidden"] || uiText? ui "ui:widget" == some "hidden"
  options := ((property.get? "enum").map Json.asStrings).getD []
  default := property.get? "default"

end Field

structure FieldSets where
  list : List Field
  form : List Field
  detail : List Field
  filters : List Field

namespace FieldSets

def empty : FieldSets := ⟨[], [], [], []⟩

def decode : Decoder FieldSets := Reader.decoder do
  let list ← Reader.required "list" (Decode.list Field.decode)
  let form ← Reader.required "form" (Decode.list Field.decode)
  let detail ← Reader.required "detail" (Decode.list Field.decode)
  let filters ← Reader.required "filters" (Decode.list Field.decode)
  pure ⟨list, form, detail, filters⟩

def toJson (s : FieldSets) : Json :=
  let set (fs : List Field) : Json := .arr (fs.map (·.toJson))
  .ofFields [("list", set s.list), ("form", set s.form), ("detail", set s.detail),
    ("filters", set s.filters)]

def defaultColumns : Nat := 5

def orderedNames (properties : Record) (uiSchema : Json) : List String :=
  let listed := ((uiSchema.get? "ui:order").map Json.asStrings).getD []
  let known := listed.filter fun n => (Entries.get? n properties).isSome
  known ++ (properties.map (·.1)).filter fun n => !known.contains n

/-- The fields of the properties of a JSON Schema. Columns are the fields marked `ui:list`, else the
first scalar ones; filters are choices, truth values and fields marked `ui:filter`. -/
def ofSchemas (schema uiSchema : Json) : FieldSets :=
  match (schema.get? "properties").bind Json.asObj? with
  | none => empty
  | some properties =>
    let required := ((schema.get? "required").map Json.asStrings).getD []
    let shown := (orderedNames properties uiSchema).filterMap fun name =>
      let ui := uiSchema.get? name
      let field := Field.ofProperty name ((Entries.get? name properties).getD .null) ui
        (required.contains name)
      if field.hidden then none else some (field, ui)
    let fields := shown.map (·.1)
    let marked := (shown.filter fun (_, ui) => Field.uiFlag ui ["ui:list"]).map (·.1)
    { list := if marked.isEmpty then (fields.filter (·.kind.isScalar)).take defaultColumns else marked
      form := fields
      detail := fields
      filters := (shown.filter fun (f, ui) =>
        f.kind == .select || f.kind == .boolean || Field.uiFlag ui ["ui:filter"]).map (·.1) }

def addMissing (fields : List Field) (f : Field) : List Field :=
  if fields.any (·.name == f.name) then fields else fields ++ [f]

def withEditorial (s : FieldSets) : FieldSets :=
  let extra : List Field :=
    [{ Field.new "translation_status" .text with readOnly := true },
      { Field.new "available_locales" .json with label := "Locales", readOnly := true }]
  { s with
    list := extra.foldl addMissing s.list
    detail := extra.foldl addMissing s.detail
    filters := addMissing s.filters
      { Field.new "incomplete" .boolean with label := "Missing translations" } }

end FieldSets

namespace FormSchema

def property (f : Field) (existing : Record) : Record :=
  let entries : List (String × Json) :=
    [("type", .str f.kind.schemaType), ("title", .str f.label)] ++
      Json.optional "format" .str f.kind.schemaFormat? ++
      (if f.options.isEmpty then [] else [("enum", .ofStrings f.options)]) ++
      Json.optional "default" id f.default ++ [("x-field-type", .str f.kind.name)]
  entries.foldl (fun acc (k, v) => Entries.set k v acc) existing

def flag (p : Record) (key : String) : Bool :=
  ((Entries.get? key p).bind Json.asBool?).getD false

/-- Both spellings of the read-only mark, set if either is or a field of the name is read-only. -/
def markReadOnly (fields : List Field) (name : String) (v : Json) : Json :=
  match v with
  | .obj p =>
    let on := flag p "readOnly" || flag p "read_only" ||
      fields.any fun f => f.name == name && f.readOnly
    .obj (Entries.set "read_only" (.bool on) (Entries.set "readOnly" (.bool on) p))
  | other => other

def build (fields : List Field) (contentSchema : Option Json) : Json :=
  let part (key : String) : Option Json := contentSchema.bind (Json.get? key)
  let start := ((part "properties").bind Json.asObj?).getD []
  let properties := fields.foldl (fun ps f =>
    let existing := ((Entries.get? f.name ps).bind Json.asObj?).getD []
    Entries.set f.name (.obj (property f existing)) ps) start
  let required := fields.foldl (fun names f =>
    if f.required && !names.contains f.name then names ++ [f.name] else names)
    (((part "required").map Json.asStrings).getD [])
  .ofFields [("type", .str "object"),
    ("properties", .obj (properties.map fun (name, v) => (name, markReadOnly fields name v))),
    ("required", .ofStrings required)]

end FormSchema

end Backoffice

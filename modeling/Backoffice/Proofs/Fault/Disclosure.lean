import Backoffice.Fault.Presenter
import Backoffice.Proofs.Json.Decode
import Backoffice.Record

namespace Backoffice

namespace Fault

def framed : Fault → Bool
  | inCommand .. => true
  | _ => false

@[simp] theorem framed_root (f : Fault) : f.root.framed = false := by
  fun_induction root f with
  | case1 command cause ih => exact ih
  | case2 f h => cases f <;> simp_all [framed]

theorem root_of_not_framed {f : Fault} (h : f.framed = false) : f.root = f := by
  cases f <;> simp_all [framed, root]

@[simp] theorem code_root (f : Fault) : f.root.code = f.code := by
  fun_induction root f with
  | case1 command cause ih => exact ih
  | case2 => rfl

@[simp] theorem category_root (f : Fault) : f.root.category = f.category := by
  fun_induction root f with
  | case1 command cause ih => exact ih
  | case2 => rfl

theorem field?_root (f : Fault) {key : String} (h : key ≠ "command") :
    f.root.data.field? key = f.data.field? key := by
  fun_induction root f with
  | case1 command cause ih =>
    rw [ih, data]
    split
    · rfl
    · exact (Entries.get?_set_ne h _ _).symm
  | case2 => rfl

theorem data_of_confidential {f : Fault} (h : f.category.confidential = true) : f.data = [] := by
  induction f with
  | inCommand command cause ih =>
    have hcause : cause.category.confidential = true := h
    rw [data, if_pos hcause]
    exact ih hcause
  | _ => simp_all [category, Category.confidential, data]

theorem data_ne_nil_of_framed {f : Fault} (hframed : f.framed = true)
    (hcategory : f.category.confidential = false) : f.data ≠ [] := by
  cases f with
  | inCommand command cause =>
    rw [data, if_neg (by simpa [category] using hcategory)]
    exact Entries.set_ne_nil _ _ _
  | _ => cases hframed

theorem data_ne_nil_of_root {f : Fault} (h : f.root.data ≠ []) : f.data ≠ [] := by
  cases hframed : f.framed with
  | false => rwa [root_of_not_framed hframed] at h
  | true =>
    apply data_ne_nil_of_framed hframed
    rw [Bool.eq_false_iff]
    intro hconfidential
    exact h (data_of_confidential (by simpa using hconfidential))

inductive Piece where
  | text (s : String)
  | value (key : String)
  deriving DecidableEq

namespace Piece

def shown : Json → String
  | .arr items => ", ".intercalate (Json.arr items).asStrings
  | v => v.scalarText?.getD ""

@[simp] theorem shown_str (s : String) : shown (.str s) = s := rfl

@[simp] theorem shown_ofNat (n : Nat) : shown (.ofNat n) = toString n := rfl

@[simp] theorem shown_ofStrings (items : List String) :
    shown (.ofStrings items) = ", ".intercalate items :=
  congrArg ", ".intercalate (Json.asStrings_ofStrings items)

def render (data : Record) : Piece → String
  | text s => s
  | value key => ((data.field? key).map shown).getD ""

end Piece

open Piece Presenter in
def templates : List (String × List Piece) :=
  let stale (kind key : String) :=
    [text (kind ++ " "), value key, text " version conflict: expected ", value "expected_version",
      text ", actual ", value "actual_version"]
  [("VALIDATION_ERROR", [text "validation failed for ", value "field", text ": ", value "constraint"]),
    ("NOT_FOUND", [value "resource", text " not found: ", value "id"]),
    ("ALREADY_EXISTS", [value "resource", text " already exists: ", value "id"]),
    ("WORKFLOW_VERSION_CONFLICT", stale "workflow" "workflow_id"),
    ("BINDING_VERSION_CONFLICT", stale "binding" "binding_id"),
    ("BINDING_CONFLICT", [text "active binding ", value "existing_binding_id",
      text " already covers ", value "scope_type", text "/", value "scope_ref", text " at priority ",
      value "priority"]),
    ("ASSIGNMENT_VERSION_CONFLICT", stale "assignment" "assignment_id"),
    ("ASSIGNMENT_ACTIVE_CONFLICT", [text "active assignment ", value "existing_assignment_id",
      text " already covers ", value "uniqueness_key"]),
    ("ROLLBACK_VERSION_NOT_FOUND", [text "workflow ", value "workflow_id", text " has no revision ",
      value "version"]),
    ("WORKFLOW_NOT_FOUND", [text "no workflow registered for ", value "entity_type"]),
    ("WORKFLOW_INVALID_TRANSITION", [text "transition ", value "transition",
      text " is not available from ", value "from_state", text " for ", value "entity_type"]),
    ("TRANSLATION_MISSING", [text "transition ", value "transition", text " on ",
      value "entity_type", text "/", value "entity_id", text " is blocked by missing translations: ",
      value "missing_locales"]),
    ("FEATURE_DISABLED", [text "feature disabled: ", value "feature"]),
    ("FEATURE_ALIAS_DISABLED", [text "feature key ", value "alias", text " has been removed, use ",
      value "replacement"]),
    ("SERVICE_NOT_CONFIGURED", [value "service", text " is not configured"]),
    ("UNSUPPORTED_OPERATION", [value "resource", text " does not support ", value "operation"]),
    ("CONFLICT", [text (safeMessage .conflict)]),
    ("FORBIDDEN", [text (safeMessage .forbidden)]),
    ("UNAUTHENTICATED", [text (safeMessage .unauthenticated)]),
    ("RATE_LIMITED", [text (safeMessage .rateLimited)]),
    ("CANCELLED", [text (safeMessage .internal)]),
    ("INTERNAL_ERROR", [text (safeMessage .internal)])]

def template (code : String) : List Piece := (templates.lookup code).getD []

/-- The message that code and data make up. -/
def told (code : String) (data : Record) : String :=
  String.join ((template code).map (Piece.render data))

theorem command_not_mem_template (code : String) : .value "command" ∉ template code := by
  have hall : ∀ row ∈ templates, .value "command" ∉ row.2 := by decide
  rw [template]
  cases h : templates.lookup code with
  | none => simp
  | some pieces =>
    obtain ⟨l, l', hrows, -⟩ := List.lookup_eq_some_iff.1 h
    exact hall (code, pieces) (by simp [hrows])

theorem told_congr {code : String} {d d' : Record}
    (h : ∀ key, key ≠ "command" → d.field? key = d'.field? key) : told code d = told code d' := by
  unfold told
  congr 1
  apply List.map_congr_left
  intro piece hpiece
  cases piece with
  | text s => rfl
  | value key =>
    have hkey : key ≠ "command" := by
      rintro rfl
      exact command_not_mem_template code hpiece
    rw [Piece.render, Piece.render, h key hkey]

inductive FreeText : Fault → Prop
  | conflict {text : String} : FreeText (.conflict text)
  | rateLimited {text : String} : FreeText (.rateLimited text)

def FramedText (f : Fault) : Prop := f.framed = true ∧ FreeText f.root

theorem FreeText.data {f : Fault} (h : FreeText f) : f.data = [] := by
  cases h <;> rfl

theorem FreeText.presentable {f : Fault} (h : FreeText f) :
    f.category ≠ .internal ∧ f.category.confidential = false := by
  cases h <;> simp [category, Category.confidential]

theorem freeText_iff {f : Fault} :
    FreeText f.root ↔ f.code = "CONFLICT" ∨ f.code = "RATE_LIMITED" := by
  rw [← code_root]
  constructor
  · intro h
    generalize f.root = g at h
    cases h <;> simp [code]
  · intro h
    have hframed := f.framed_root
    revert h hframed
    cases f.root <;> simp [code, framed, FreeText.conflict, FreeText.rateLimited]

theorem framedText_iff {f : Fault} :
    FramedText f ↔ (f.code = "CONFLICT" ∨ f.code = "RATE_LIMITED") ∧ f.data ≠ [] := by
  rw [← freeText_iff]
  constructor
  · rintro ⟨hframed, htext⟩
    exact ⟨htext, data_ne_nil_of_framed hframed (by simpa using htext.presentable.2)⟩
  · rintro ⟨htext, hdata⟩
    refine ⟨?_, htext⟩
    rw [← Bool.not_eq_false]
    intro hframed
    rw [root_of_not_framed hframed] at htext
    exact hdata htext.data

inductive Silent (f : Fault) : Prop
  | internal : f.category = .internal → Silent f
  | confidential : f.category.confidential = true → Silent f
  | text : FreeText f → Silent f

theorem told_of_silent {f : Fault} (hf : f.framed = false) (h : Silent f) (data : Record) :
    told f.code data = Presenter.safeMessage f.category := by
  cases f with
  | inCommand => cases hf
  | conflict | rateLimited | forbidden | unauthenticated | cancelled | internal =>
    -- a template without values says the same whatever the data
    simp [told, template, templates, code, List.lookup_cons, Piece.render, category]
  | _ => rcases h with h | h | h <;> cases h

theorem told_of_not_silent {f : Fault} (hf : f.framed = false) (h : ¬Silent f) :
    f.data ≠ [] ∧ f.message = told f.code f.data := by
  cases f with
  | inCommand => cases hf
  | conflict => exact absurd (.text .conflict) h
  | rateLimited => exact absurd (.text .rateLimited) h
  | forbidden | unauthenticated => exact absurd (.confidential rfl) h
  | cancelled | internal => exact absurd (.internal rfl) h
  | featureDisabled feature reason =>
    unfold message
    cases reason <;>
      simp [told, template, templates, code, List.lookup_cons, data, texts, Entries.ofList, Piece.render,
        Record.field?, Entries.set_ne_nil]
  | _ =>
    unfold message
    simp [told, template, templates, code, List.lookup_cons, staleText, data, texts, staleData,
      Entries.ofList, Piece.render, Record.field?, String.append_assoc, Entries.set_ne_nil]

theorem append_ne (s text : String) : s ++ (text ++ "!") ≠ s ++ text := by
  intro h
  have hlength := congrArg String.length h
  simp at hlength

theorem FreeText.twin {f : Fault} (h : FreeText f.root) :
    ∃ g : Fault, g.code = f.code ∧ g.category = f.category ∧ g.data = f.data ∧
      g.root.message ≠ f.root.message := by
  induction f with
  | inCommand command cause ih =>
    obtain ⟨g, hcode, hcategory, hdata, hmessage⟩ := ih h
    refine ⟨inCommand command g, hcode, hcategory, ?_, hmessage⟩
    rw [Fault.data, Fault.data, hcategory, hdata]
  | conflict text => exact ⟨.conflict (text ++ "!"), rfl, rfl, rfl, append_ne "conflict: " text⟩
  | rateLimited text =>
    exact ⟨.rateLimited (text ++ "!"), rfl, rfl, rfl, append_ne "rate limit exceeded: " text⟩
  | _ => cases h

end Fault

namespace Presenter

open Fault

variable {p : Presenter} {f : Fault}

theorem messageFor_eq_told (hp : p.development = false) (hf : ¬FramedText f) :
    p.messageFor f = told f.code f.data := by
  by_cases hsilent : Silent f.root
  · have hhidden : f.category = .internal ∨ f.data = [] := by
      cases hsilent with
      | internal h => exact .inl (by simpa using h)
      | confidential h => exact .inr (data_of_confidential (by simpa using h))
      | text h =>
        -- no frame, so the data is that of the text itself
        have hframed : f.framed = false := Bool.eq_false_iff.2 fun hframed => hf ⟨hframed, h⟩
        rw [root_of_not_framed hframed] at h
        exact .inr h.data
    have htold := told_of_silent f.framed_root hsilent f.data
    rw [code_root, category_root] at htold
    simp [messageFor, hp, hhidden, htold]
  · obtain ⟨hdata, hmessage⟩ := told_of_not_silent f.framed_root hsilent
    have hcategory : f.category ≠ .internal := fun h => hsilent (.internal (by simpa using h))
    rw [code_root, told_congr fun _ hkey => f.field?_root hkey] at hmessage
    simp [messageFor, hp, hcategory, data_ne_nil_of_root hdata, hmessage]

theorem messageFor_of_framedText (hp : p.development = false) (hf : FramedText f) :
    p.messageFor f = f.root.message := by
  have hpresentable := hf.2.presentable
  rw [category_root] at hpresentable
  simp [messageFor, hp, hpresentable.1, data_ne_nil_of_framed hf.1 hpresentable.2]

/-- A production message is made up of code and data alone, and so shown alike for faults that agree
in both; only the text of a free text inside a command is shown beyond its data. -/
theorem production_message_told (hp : p.development = false) (r : Option RequestLine) :
    (¬FramedText f → (p.present f r).message = told f.code f.data ∧
      ∀ g r', g.code = f.code → g.data = f.data →
        (p.present g r').message = (p.present f r).message) ∧
    (FramedText f → ∃ g, g.code = f.code ∧ g.data = f.data ∧
      ∀ r', (p.present g r').message ≠ (p.present f r).message) := by
  constructor
  · intro hf
    have hmessage : (p.present f r).message = told f.code f.data := messageFor_eq_told hp hf
    refine ⟨hmessage, fun g r' hcode hdata => ?_⟩
    have hg : ¬FramedText g := by
      rwa [framedText_iff, hcode, hdata, ← framedText_iff]
    have hmessage' : (p.present g r').message = told g.code g.data := messageFor_eq_told hp hg
    rw [hmessage', hmessage, hcode, hdata]
  · intro hf
    obtain ⟨g, hcode, -, hdata, hmessage⟩ := hf.2.twin
    refine ⟨g, hcode, hdata, fun r' => ?_⟩
    have hg : FramedText g := by
      rwa [framedText_iff, hcode, hdata, ← framedText_iff]
    change p.messageFor g ≠ p.messageFor f
    rwa [messageFor_of_framedText hp hg, messageFor_of_framedText hp hf]

theorem production_message_told_notFound :
    let f : Fault := .inCommand "queue.bulk_claim" (.inCommand "queue.claim" (.notFound "row" "7"))
    ¬FramedText f ∧ ((Presenter.new false).present f none).message = "row not found: 7" ∧
      ∀ g r, g.code = f.code → g.data = f.data →
        ((Presenter.new false).present g r).message = "row not found: 7" := by
  intro f
  have hf : ¬FramedText f := by
    rintro ⟨-, ⟨⟩⟩
  obtain ⟨hmessage, hshared⟩ := (production_message_told (p := .new false) rfl none).1 hf
  have htold : told f.code f.data = "row not found: 7" := by decide
  rw [htold] at hmessage
  exact ⟨hf, hmessage, fun g r hcode hdata => (hshared g r hcode hdata).trans hmessage⟩

theorem framed_text_shown :
    let f (text : String) : Fault := .inCommand "panels.create" (.conflict text)
    let shown (text : String) := ((Presenter.new false).present (f text) none).message
    (f "panel slug already registered: pages").code = (f "panel slug already registered: news").code ∧
      (f "panel slug already registered: pages").data =
        (f "panel slug already registered: news").data ∧
      shown "panel slug already registered: pages" = "conflict: panel slug already registered: pages" ∧
      shown "panel slug already registered: news" = "conflict: panel slug already registered: news" :=
  ⟨rfl, rfl, by rfl, by decide⟩

end Presenter

end Backoffice

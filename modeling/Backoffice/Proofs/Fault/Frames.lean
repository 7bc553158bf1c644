import Backoffice.Proofs.Fault.Disclosure

namespace Backoffice

namespace Fault

variable {f : Fault} {command : String}

/-- The fault after it has passed through commands, the outermost first. -/
def framedBy (commands : List String) (f : Fault) : Fault := commands.foldr inCommand f

def commands : Fault → List String
  | inCommand command cause => command :: cause.commands
  | _ => []

@[simp] theorem root_framedBy (commands : List String) (f : Fault) :
    (f.framedBy commands).root = f.root := by
  induction commands with
  | nil => rfl
  | cons command rest ih => exact ih

@[simp] theorem commands_framedBy (commands : List String) (f : Fault) :
    (f.framedBy commands).commands = commands ++ f.commands := by
  induction commands with
  | nil => rfl
  | cons command rest ih => exact congrArg (command :: ·) ih

@[simp] theorem root_root (f : Fault) : f.root.root = f.root := root_of_not_framed f.framed_root

theorem status_root (f : Fault) : f.root.status = f.status := by
  rw [status, category_root, status]

theorem isNotFound_root (f : Fault) : f.root.isNotFound = f.isNotFound := by
  rw [isNotFound, root_root, isNotFound]

theorem isAlreadyExists_root (f : Fault) : f.root.isAlreadyExists = f.isAlreadyExists := by
  rw [isAlreadyExists, root_root, isAlreadyExists]

/-- A fault that tells nothing of what was asked for. -/
inductive Confidential : Fault → Prop
  | forbidden {action resource : String} : Confidential (.forbidden action resource)
  | unauthenticated : Confidential .unauthenticated

theorem confidential_root : Confidential f.root ↔ f.category.confidential = true := by
  rw [← category_root]
  have hframed := f.framed_root
  generalize f.root = root at hframed
  constructor
  · rintro ⟨⟩ <;> rfl
  · intro h
    cases root with
    | forbidden action resource => exact .forbidden
    | unauthenticated => exact .unauthenticated
    | inCommand => cases hframed
    | _ => cases h

def withCommand (data : Record) : Option String → Record
  | some command => Entries.set "command" (.str command) data
  | none => data

theorem data_eq_withCommand (h : f.category.confidential = false) :
    f.data = withCommand f.root.data f.commands.head? := by
  induction f with
  | inCommand command cause ih =>
    have hcause : cause.category.confidential = false := h
    rw [data, if_neg (Bool.eq_false_iff.1 hcause), ih hcause, root, commands, List.head?_cons,
      withCommand]
    -- the command of the next frame inside is replaced
    cases cause.commands.head? with
    | none => rfl
    | some inner => exact Entries.set_set "command" (.str command) (.str inner) cause.root.data
  | _ => rfl

end Fault

namespace Presenter

open Fault

variable {f : Fault}

theorem metadataFor_of_confidential (h : f.category.confidential = true)
    (request : Option RequestLine) : metadataFor f request = [] := by
  cases request with
  | none => exact data_of_confidential h
  | some line => exact (if_pos h).trans (data_of_confidential h)

end Presenter

theorem Presentation.toJson_of_no_metadata {p : Presentation} (h : p.metadata = []) :
    p.toJson.get? "metadata" = none := by
  change Entries.get? "metadata" (Entries.ofList _) = none
  rw [h, Entries.get?_ofList]
  cases p.causes <;> simp [Json.optional]

namespace Fault

/-- Commands only frame a fault: it is classified as its root, and its data is that of the root with
the outermost command. A confidential fault has no data under any frames, and is presented without. -/
theorem frames_transparent (f : Fault) (names : List String) :
    let g := f.framedBy names
    g.category = f.root.category ∧ g.code = f.root.code ∧ g.status = f.root.status ∧
      g.isNotFound = f.root.isNotFound ∧ g.isAlreadyExists = f.root.isAlreadyExists ∧
      (¬Confidential f.root →
        g.data = withCommand f.root.data (names ++ f.commands).head?) ∧
      (Confidential f.root → g.data = [] ∧
        ∀ (p : Presenter) (request : Option RequestLine),
          ((p.present g request).metadata = [] ∧
            (p.present g request).toJson.get? "metadata" = none) ∧
          ∀ e : Failure, p.classify e = g →
            (p.presentFailure e request).metadata = [] ∧
              (p.presentFailure e request).toJson.get? "metadata" = none) := by
  intro g
  have hroot : g.root = f.root := root_framedBy names f
  have hcommands : g.commands = names ++ f.commands := commands_framedBy names f
  clear_value g
  rw [← hroot, ← hcommands, confidential_root]
  refine ⟨(category_root g).symm, (code_root g).symm, (status_root g).symm,
    (isNotFound_root g).symm, (isAlreadyExists_root g).symm, fun hopen => ?_, fun hclosed => ?_⟩
  · exact data_eq_withCommand (Bool.eq_false_iff.2 hopen)
  · refine ⟨data_of_confidential hclosed, fun p request => ?_⟩
    have hpresented : (p.present g request).metadata = [] :=
      Presenter.metadataFor_of_confidential hclosed request
    refine ⟨⟨hpresented, Presentation.toJson_of_no_metadata hpresented⟩, ?_⟩
    rintro e rfl
    have hfailure : (p.presentFailure e request).metadata = [] := hpresented
    exact ⟨hfailure, Presentation.toJson_of_no_metadata hfailure⟩

theorem frames_transparent_claims :
    let names := ["queue.bulk_claim", "queue.claim"]
    let missing := notFound "row" "7"
    let refused := forbidden "claim" "queue"
    ¬Confidential missing.root ∧ Confidential refused.root ∧
      (missing.framedBy names).data =
        texts [("resource", "row"), ("id", "7"), ("command", "queue.bulk_claim")] ∧
      (refused.framedBy names).data = [] := by
  intro names missing refused
  have hopen : ¬Confidential missing.root := by rintro ⟨⟩
  have hclosed : Confidential refused.root := .forbidden
  obtain ⟨-, -, -, -, -, hdata, -⟩ := frames_transparent missing names
  obtain ⟨-, -, -, -, -, -, hnone⟩ := frames_transparent refused names
  exact ⟨hopen, hclosed, (hdata hopen).trans (by rfl), (hnone hclosed).1⟩

end Fault

end Backoffice

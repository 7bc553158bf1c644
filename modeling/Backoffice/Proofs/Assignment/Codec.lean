import Backoffice.Assignment.Queue
import Backoffice.Proofs.Json.Decode

namespace Backoffice

open Decode (field_optional option_ofOption word_ofNat)
open Entries (get?_ofList_append get?_ofList_cons)

def Instant.Legible (t : Instant) : Prop := parse? t.text = some t

instance (t : Instant) : Decidable t.Legible := inferInstanceAs (Decidable (_ = _))

theorem Instant.decode_toJson {t : Instant} (h : t.Legible) : decode t.toJson = some t := by
  unfold decode toJson
  rw [Json.asStr?, Option.bind_some]
  exact h

namespace Assignment

@[simp] theorem Pool.decode_text (p : Pool) : decode (.str p.text) = some p := by cases p <;> decide

@[simp] theorem Status.decode_text (s : Status) : decode (.str s.text) = some s := by
  cases s <;> decide

@[simp] theorem Priority.decode_text (p : Priority) : decode (.str p.text) = some p := by
  cases p <;> decide

theorem Draft.decode_toJson {d : Draft} (h : ∀ t, d.dueDate = some t → t.Legible) :
    decode d.toJson = some d := by
  apply Reader.Reads.decoder
  have hdue : Decode.option Instant.decode (.ofOption Instant.toJson d.dueDate) = some d.dueDate :=
    option_ofOption rfl fun t ht => Instant.decode_toJson (h t ht)
  simp [get?_ofList_cons, hdue, -bind_pure_comp]

theorem Filter.decode_toJson (f : Filter) : decode f.toJson = some f := by
  apply Reader.Reads.decoder
  have hstatus : Decode.option Status.decode (.ofOption (fun s => .str s.text) f.status) =
      some f.status := option_ofOption rfl fun s _ => s.decode_text
  simp [get?_ofList_cons, hstatus, -bind_pure_comp]

theorem Action.decode_toJson {a : Action} (h : a.expectedVersion < UInt64.size) :
    decode a.toJson = some a := by
  apply Reader.Reads.decoder
  simp [get?_ofList_cons, word_ofNat h, -bind_pure_comp]

theorem Target.decode_toJson {t : Target} (h : t.expectedVersion < UInt64.size) :
    decode t.toJson = some t := by
  apply Reader.Reads.decoder
  simp [get?_ofList_cons, word_ofNat h, -bind_pure_comp]

theorem BulkAction.decode_toJson {b : BulkAction}
    (h : ∀ t ∈ b.items, t.expectedVersion < UInt64.size) : decode b.toJson = some b := by
  apply Reader.Reads.decoder
  have hitems : Decode.list Target.decode (.arr (b.items.map (·.toJson))) = some b.items :=
    Decode.list_self fun t ht => Target.decode_toJson (h t ht)
  simp [get?_ofList_cons, hitems, -bind_pure_comp]

def stamps (a : Assignment) : List (Option Instant) :=
  [a.dueDate, a.claimedAt, a.submittedAt, a.reviewedAt, a.publishedAt, a.archivedAt]

structure Legible (a : Assignment) : Prop where
  created : a.createdAt.Legible
  updated : a.updatedAt.Legible
  stamps : ∀ o ∈ a.stamps, ∀ t, o = some t → t.Legible

theorem decode_toJson {a : Assignment} (h : a.Legible) (hversion : a.version < UInt64.size) :
    decode a.toJson = some a := by
  apply Reader.Reads.decoder
  have hstamps : ∀ o ∈ a.stamps,
      Decode.field none (Decode.option Instant.decode) (o.map Instant.toJson) = some o := by
    intro o ho
    exact field_optional rfl fun t ht => Instant.decode_toJson (h.stamps o ho t ht)
  simp only [Assignment.stamps, List.forall_mem_cons] at hstamps
  simp [get?_ofList_append, get?_ofList_cons, word_ofNat hversion, Instant.decode_toJson h.created,
    Instant.decode_toJson h.updated, hstamps, -bind_pure_comp]

structure Failure where
  code : String
  category : String
  message : String
  deriving DecidableEq, Repr

namespace Failure

def ofFault (f : Fault) : Failure := ⟨f.code, f.category.text, f.message⟩

def decode : Decoder Failure := Reader.decoder do
  let code ← Reader.required "text_code" Decode.string
  let category ← Reader.required "category" Decode.string
  let message ← Reader.required "message" Decode.string
  pure ⟨code, category, message⟩

def toJson (f : Failure) : Json :=
  .ofFields [("text_code", .str f.code), ("category", .str f.category), ("message", .str f.message)]

theorem decode_toJson (f : Failure) : decode f.toJson = some f := by
  apply Reader.Reads.decoder
  simp [get?_ofList_cons, -bind_pure_comp]

end Failure

structure Report where
  id : String
  assignment : Option Assignment
  failure : Option Failure
  deriving DecidableEq, Repr

namespace Report

def decode : Decoder Report := Reader.decoder do
  let id ← Reader.required "id" Decode.string
  let assignment ← Reader.optional "assignment" Assignment.decode
  let failure ← Reader.optional "error" Failure.decode
  pure ⟨id, assignment, failure⟩

def toJson (r : Report) : Json :=
  .ofFields ([("id", .str r.id)] ++ Json.optional "assignment" Assignment.toJson r.assignment ++
    Json.optional "error" Failure.toJson r.failure)

theorem decode_toJson {r : Report}
    (h : ∀ a, r.assignment = some a → Assignment.decode a.toJson = some a) :
    decode r.toJson = some r := by
  apply Reader.Reads.decoder
  have hassignment := field_optional (d := Assignment.decode) rfl h
  have hfailure := field_optional (d := Failure.decode) (o := r.failure) rfl fun f _ =>
    f.decode_toJson
  simp [get?_ofList_append, get?_ofList_cons, hassignment, hfailure, -bind_pure_comp]

end Report

namespace Outcome

def report (o : Outcome) : Report :=
  match o.result with
  | .ok a => ⟨o.id, some a, none⟩
  | .error f => ⟨o.id, none, some (.ofFault f)⟩

theorem toJson_report (o : Outcome) : o.report.toJson = o.toJson := by
  obtain ⟨id, a | f⟩ := o <;> rfl

theorem decode_toJson {o : Outcome}
    (h : ∀ a, o.result = .ok a → Assignment.decode a.toJson = some a) :
    Report.decode o.toJson = some o.report := by
  rw [← toJson_report]
  apply Report.decode_toJson
  obtain ⟨id, a | f⟩ := o
  · simp [report]
  · simpa [report] using h

end Outcome

namespace Queue

/-- The payload is read back from its JSON. -/
def Command.Legible : Command → Prop
  | .create d => ∀ t, d.dueDate = some t → t.Legible
  | .list _ => True
  | .single _ a => a.expectedVersion < UInt64.size
  | .bulk _ b => ∀ t ∈ b.items, t.expectedVersion < UInt64.size

theorem Command.decode_toJson {c : Command} (h : c.Legible) : c.verb.decode c.toJson = some c := by
  cases c with
  | create d => simp [verb, toJson, Verb.decode, Draft.decode_toJson h]
  | list f => simp [verb, toJson, Verb.decode, Filter.decode_toJson]
  | single op a => simp [verb, toJson, Verb.decode, Action.decode_toJson h]
  | bulk op b => simp [verb, toJson, Verb.decode, BulkAction.decode_toJson h]

theorem Command.toJson_eq_obj (c : Command) : ∃ payload, c.toJson = .obj payload := by
  cases c <;> exact ⟨_, rfl⟩

def Answer.assignments : Answer → List Assignment
  | .row a => [a]
  | .rows as => as
  | .outcomes os => os.filterMap fun o => o.result.toOption

inductive Told where
  | row (a : Assignment)
  | rows (as : List Assignment)
  | reports (rs : List Report)

def Answer.told : Answer → Told
  | .row a => .row a
  | .rows as => .rows as
  | .outcomes os => .reports (os.map (·.report))

def Verb.decodeAnswer : Verb → Decoder Told
  | create | single _ => fun v => (Assignment.decode v).map .row
  | list => fun v => (Decode.list Assignment.decode v).map .rows
  | bulk _ => fun v => (Decode.list Report.decode v).map .reports

inductive Answer.Fits : Answer → Verb → Prop
  | create {a : Assignment} : Fits (.row a) .create
  | list {as : List Assignment} : Fits (.rows as) .list
  | single {a : Assignment} {op : Operation} : Fits (.row a) (.single op)
  | bulk {os : List Outcome} {op : Operation} : Fits (.outcomes os) (.bulk op)

theorem Answer.decode_toJson {a : Answer} {v : Verb} (h : a.Fits v)
    (hrows : ∀ row ∈ a.assignments, Assignment.decode row.toJson = some row) :
    v.decodeAnswer a.toJson = some a.told := by
  cases h with
  | create | single => simp [Verb.decodeAnswer, toJson, told, hrows _ List.mem_cons_self]
  | @list as =>
    have hlist : Decode.list Assignment.decode (.arr (as.map (·.toJson))) = some as :=
      Decode.list_self hrows
    simp [Verb.decodeAnswer, toJson, told, hlist]
  | @bulk os op =>
    have hreports : ∀ o ∈ os, Report.decode o.toJson = some o.report := by
      intro o ho
      refine Outcome.decode_toJson fun a ha => hrows a ?_
      exact List.mem_filterMap.2 ⟨o, ho, by rw [ha]; rfl⟩
    simp [Verb.decodeAnswer, toJson, told, Decode.list_map hreports]

end Queue

end Assignment

end Backoffice

import Backoffice.Json.Decode
import Backoffice.Proofs.Dict

namespace Backoffice

variable {α β : Type}

@[simp] theorem Json.get?_optional (name k : String) (f : α → Json) (o : Option α) :
    Entries.get? k (Entries.ofList (Json.optional name f o)) =
      if name = k then o.map f else none := by
  cases o with
  | none => simp [Json.optional]
  | some a => simp [Json.optional, Entries.get?_ofList_cons]

theorem Json.asBool?_eq_some_iff {v : Json} {b : Bool} : v.asBool? = some b ↔ v = .bool b := by
  cases v <;> simp [asBool?]

theorem Json.asStr?_eq_some_iff {v : Json} {s : String} : v.asStr? = some s ↔ v = .str s := by
  cases v <;> simp [asStr?]

theorem Json.asStrings_ofStrings (items : List String) : (Json.ofStrings items).asStrings = items := by
  have hself : Json.asStr? ∘ Json.str = some := rfl
  rw [ofStrings, asStrings, asArr?, Option.getD_some, List.filterMap_map, hself, List.filterMap_some]

namespace Decode

variable {d : Decoder α} {f : α → Json}

def field (fallback : α) (d : Decoder α) : Option Json → Option α
  | none => some fallback
  | some v => d v

@[simp] theorem field_some (fallback : α) (d : Decoder α) (v : Json) :
    field fallback d (some v) = d v := rfl

@[simp] theorem string_str (s : String) : string (.str s) = some s := by
  simp only [string, Json.asStr?]

theorem word_ofNat {n : Nat} (h : n < UInt64.size) : word (.ofNat n) = some n := by
  simp only [word, natBelow, Json.ofNat, intBetween]
  have hbounds : (0 ≤ (n : Int) && (n : Int) ≤ Nat.pow 2 64 - 1) = true := by
    simp only [UInt64.size] at h
    simp
    omega
  rw [if_pos hbounds]
  rfl

theorem list_map {g : β → Json} {r : β → α} {bs : List β} (h : ∀ b ∈ bs, d (g b) = some (r b)) :
    list d (.arr (bs.map g)) = some (bs.map r) := by
  change (bs.map g).mapM d = some (bs.map r)
  induction bs with
  | nil => rfl
  | cons b bs ih =>
    have hrest := ih fun b' hb => h b' (List.mem_cons_of_mem b hb)
    simp [h b List.mem_cons_self, hrest]

theorem list_self {as : List α} (h : ∀ a ∈ as, d (f a) = some a) :
    list d (.arr (as.map f)) = some as := by
  simpa using list_map h

theorem option_ofOption (hnull : d .null = none) {o : Option α}
    (h : ∀ a, o = some a → d (f a) = some a) : option d (.ofOption f o) = some o := by
  cases o with
  | none => rfl
  | some a =>
    have ha := h a rfl
    change option d (f a) = some (some a)
    unfold option
    split
    · rename_i hfa
      rw [hfa, hnull] at ha
      cases ha
    · rw [ha]
      rfl

theorem field_optional (hnull : d .null = none) {o : Option α}
    (h : ∀ a, o = some a → d (f a) = some a) : field none (option d) (o.map f) = some o := by
  cases o with
  | none => rfl
  | some a => exact option_ofOption hnull (o := some a) h

@[simp] theorem option_str (o : Option String) : option string (.ofOption .str o) = some o :=
  option_ofOption rfl fun a _ => string_str a

@[simp] theorem field_str (o : Option String) : field none (option string) (o.map .str) = some o :=
  field_optional rfl fun a _ => string_str a

end Decode

namespace Reader

variable {fields : Record}

def Reads (r : Reader α) (fields : Record) (a : α) : Prop :=
  r (.named fields) = some (a, .named fields)

theorem Reads.decoder {r : Reader α} {a : α} (h : r.Reads fields a) :
    r.decoder (.obj fields) = some a := by
  change (r (.named fields)).map (·.1) = some a
  rw [show r (.named fields) = _ from h, Option.map_some]

@[simp] theorem reads_pure {a b : α} : (pure a : Reader α).Reads fields b ↔ a = b := by
  change some (a, Parts.named fields) = some (b, Parts.named fields) ↔ _
  simp

theorem bind_apply (r : Reader α) (f : α → Reader β) (parts : Parts) :
    (r >>= f) parts = (r parts).bind fun p => f p.1 p.2 := rfl

theorem forall_of_mapM {f : α → Reader β} {P : β → Prop} {as : List α}
    (hf : ∀ a ∈ as, ∀ parts b rest, f a parts = some (b, rest) → P b) {bs : List β}
    {parts rest : Parts} (h : as.mapM f parts = some (bs, rest)) : ∀ b ∈ bs, P b := by
  induction as generalizing bs parts with
  | nil =>
    cases h
    exact List.forall_mem_nil _
  | cons a as ih =>
    rw [List.forall_mem_cons] at hf
    rw [List.mapM_cons, bind_apply, Option.bind_eq_some_iff] at h
    obtain ⟨⟨b, parts'⟩, hb, h⟩ := h
    rw [bind_apply, Option.bind_eq_some_iff] at h
    obtain ⟨⟨bs', rest'⟩, hbs, h⟩ := h
    cases h
    exact List.forall_mem_cons.2 ⟨hf.1 _ _ _ hb, ih hf.2 hbs⟩

theorem exists_of_decoder {r : Reader α} {v : Json} {a : α}
    (h : r.decoder v = some a) : ∃ parts rest, r parts = some (a, rest) := by
  unfold decoder at h
  split at h
  · rename_i fields
    obtain ⟨⟨b, rest⟩, hr, rfl⟩ := Option.map_eq_some_iff.1 h
    exact ⟨_, rest, hr⟩
  · split at h
    · rename_i hr
      cases h
      exact ⟨_, _, hr⟩
    · cases h
  · cases h

theorem reads_bind {r : Reader α} {o : Option α} {f : α → Reader β} {b : β}
    (h : r (.named fields) = o.map (·, .named fields)) :
    (r >>= f).Reads fields b ↔ ∃ a, o = some a ∧ (f a).Reads fields b := by
  rw [Reads, bind_apply, h, Option.bind_map]
  exact Option.bind_eq_some_iff

theorem next_named (name : String) :
    next name (.named fields) = some (Entries.get? name fields, .named fields) := rfl

theorem required_named (name : String) (d : Decoder α) :
    required name d (.named fields) =
      ((Entries.get? name fields).bind d).map (·, .named fields) := by
  rw [required, bind_apply, next_named]
  cases Entries.get? name fields with
  | none => rfl
  | some v => exact Option.map_eq_bind.symm

theorem defaulted_named (name : String) (fallback : α) (d : Decoder α) :
    defaulted name fallback d (.named fields) =
      (Decode.field fallback d (Entries.get? name fields)).map (·, .named fields) := by
  rw [defaulted, bind_apply, next_named]
  cases Entries.get? name fields with
  | none => rfl
  | some v => exact Option.map_eq_bind.symm

@[simp] theorem reads_required {name : String} {d : Decoder α} {f : α → Reader β} {b : β} :
    (required name d >>= f).Reads fields b ↔
      ∃ v, Entries.get? name fields = some v ∧ ∃ a, d v = some a ∧ (f a).Reads fields b := by
  rw [reads_bind (required_named name d)]
  simp only [Option.bind_eq_some_iff]
  exact ⟨fun ⟨a, ⟨v, hv, ha⟩, h⟩ => ⟨v, hv, a, ha, h⟩, fun ⟨v, hv, a, ha, h⟩ => ⟨a, ⟨v, hv, ha⟩, h⟩⟩

@[simp] theorem reads_defaulted {name : String} {fallback : α} {d : Decoder α} {f : α → Reader β}
    {b : β} :
    (defaulted name fallback d >>= f).Reads fields b ↔
      ∃ a, Decode.field fallback d (Entries.get? name fields) = some a ∧
        (f a).Reads fields b := reads_bind (defaulted_named name fallback d)

@[simp] theorem reads_optional {name : String} {d : Decoder α} {f : Option α → Reader β} {b : β} :
    (optional name d >>= f).Reads fields b ↔
      ∃ o, Decode.field none (Decode.option d) (Entries.get? name fields) = some o ∧
        (f o).Reads fields b := reads_defaulted

end Reader

end Backoffice

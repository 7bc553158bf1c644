import Backoffice.Content.Catalog
import Backoffice.Proofs.Call
import Backoffice.Proofs.Dict
import Backoffice.Proofs.Text.Key

namespace Backoffice.ContentType

variable {c d : ContentType}

theorem normalized_eq_ok (h : c.normalized = .ok d) :
    Text.key c.slug ≠ "" ∧ d = { c with
      slug := Text.key c.slug
      environment := Text.key c.environment
      name := if Text.blank c.name then Text.key c.slug else c.name } := by
  unfold normalized at h
  dsimp only at h
  generalize Text.key c.slug = slug at h ⊢
  obtain ⟨hslug, h⟩ := refuse_eq_ok.1 h
  cases h
  exact ⟨mt beq_iff_eq.2 hslug, rfl⟩

structure Normal (c : ContentType) : Prop where
  slug : Text.key c.slug = c.slug
  environment : Text.key c.environment = c.environment
  named : c.slug ≠ ""

theorem normal_of_normalized (h : c.normalized = .ok d) : d.Normal := by
  obtain ⟨hslug, rfl⟩ := normalized_eq_ok h
  exact ⟨Text.key_key _, Text.key_key _, hslug⟩

namespace Catalog

variable {cat cat' : Catalog} {ctx : Context} {now : Instant} {fresh id : String}

theorem get?_of_get (h : cat.get ctx id = .ok c) : cat.types.get? id = some c := by
  obtain ⟨-, -, h⟩ := bind_eq_ok.1 h
  split at h
  · cases h
    assumption
  · cases h

theorem checkSlug_eq_ok : cat.checkSlug c = .ok () ↔ ∀ id e, cat.types.get? id = some e →
    e.slug = c.slug → e.environment = c.environment → e.id = c.id := by
  have hclash : (cat.types.values.any fun e =>
      e.id != c.id && e.slug == c.slug && e.environment == c.environment) = false ↔
      ∀ id e, cat.types.get? id = some e →
        e.slug = c.slug → e.environment = c.environment → e.id = c.id := by
    simp only [List.any_eq_false, Dict.mem_values_iff, Bool.and_eq_true, bne_iff_ne, beq_iff_eq]
    constructor
    · intro h id e he hslug henvironment
      by_contra hid
      exact h e ⟨id, he⟩ ⟨⟨hid, hslug⟩, henvironment⟩
    · rintro h e ⟨id, he⟩ ⟨⟨hid, hslug⟩, henvironment⟩
      exact hid (h id e he hslug henvironment)
  rw [← hclash, ← Bool.not_eq_true, checkSlug]
  split
  · rename_i htaken
    exact ⟨nofun, fun h => absurd htaken h⟩
  · rename_i hfree
    exact ⟨fun _ => hfree, fun _ => rfl⟩

theorem create_eq_ok (h : cat.create ctx now fresh c = .ok (d, cat')) :
    (∃ new, c.normalized = .ok new ∧ d = { new with
      id := if Text.blank new.id then fresh else new.id
      createdAt := now
      updatedAt := now }) ∧
    cat.types.get? d.id = none ∧ cat.checkSlug d = .ok () ∧ cat' = cat.write d := by
  obtain ⟨-, -, h⟩ := bind_eq_ok.1 h
  obtain ⟨new, hnew, h⟩ := bind_eq_ok.1 h
  obtain ⟨habsent, h⟩ := refuse_eq_ok.1 h
  obtain ⟨⟨⟩, hslug, h⟩ := bind_eq_ok.1 h
  cases h
  exact ⟨⟨new, hnew, rfl⟩, (Dict.contains_eq_false_iff _ _).1 (Bool.eq_false_iff.2 habsent), hslug,
    rfl⟩

theorem update_eq_ok (h : cat.update ctx now c = .ok (d, cat')) :
    ∃ new current, c.normalized = .ok new ∧ cat.types.get? new.id = some current ∧
      d = { new with createdAt := current.createdAt, updatedAt := now } ∧
      cat.checkSlug d = .ok () ∧ cat' = cat.write d := by
  obtain ⟨-, -, h⟩ := bind_eq_ok.1 h
  obtain ⟨new, hnew, h⟩ := bind_eq_ok.1 h
  obtain ⟨current, hcurrent, h⟩ := bind_eq_ok.1 h
  obtain ⟨⟨⟩, hslug, h⟩ := bind_eq_ok.1 h
  cases h
  exact ⟨new, current, hnew, get?_of_get hcurrent, rfl, hslug, rfl⟩

theorem write_of_update (h : cat.update ctx now c = .ok (d, cat')) :
    d.id = c.id ∧ d.environment = Text.key c.environment ∧ cat' = cat.write d := by
  obtain ⟨new, current, hnew, -, rfl, -, rfl⟩ := update_eq_ok h
  obtain ⟨-, rfl⟩ := normalized_eq_ok hnew
  exact ⟨rfl, rfl, rfl⟩

theorem createdAt_of_update {e : ContentType} (h : cat.update ctx now c = .ok (d, cat'))
    (he : cat.types.get? id = some e) :
    ∃ e', cat'.types.get? id = some e' ∧ e'.createdAt = e.createdAt := by
  obtain ⟨new, current, -, hcurrent, rfl, -, rfl⟩ := update_eq_ok h
  rw [write, Dict.get?_set]
  split
  · rename_i hid
    subst hid
    cases hcurrent.symm.trans he
    exact ⟨_, rfl, rfl⟩
  · exact ⟨e, he, rfl⟩

theorem erase_of_delete (h : cat.delete ctx id = .ok (d, cat')) :
    cat.types.get? id = some d ∧ cat' = ⟨cat.types.erase id⟩ := by
  obtain ⟨current, hcurrent, h⟩ := bind_eq_ok.1 h
  cases h
  exact ⟨get?_of_get hcurrent, rfl⟩

structure Orderly (cat : Catalog) : Prop where
  filed : ∀ id c, cat.types.get? id = some c → c.id = id
  normal : ∀ id c, cat.types.get? id = some c → c.Normal
  distinct : ∀ id id' c c', cat.types.get? id = some c → cat.types.get? id' = some c' →
    c.slug = c'.slug → c.environment = c'.environment → id = id'

namespace Orderly

theorem empty : Orderly .empty where
  filed _ _ h := by cases h
  normal _ _ h := by cases h
  distinct _ _ _ _ h := by cases h

theorem write (hcat : cat.Orderly) (hc : c.Normal) (hslug : cat.checkSlug c = .ok ()) :
    (cat.write c).Orderly := by
  have hstored : ∀ {id d}, (cat.write c).types.get? id = some d →
      (id = c.id ∧ d = c) ∨ (id ≠ c.id ∧ cat.types.get? id = some d) := by
    intro id d hd
    rw [Catalog.write, Dict.get?_set] at hd
    split at hd
    · rename_i hid
      exact .inl ⟨hid, (Option.some.inj hd).symm⟩
    · rename_i hid
      exact .inr ⟨hid, hd⟩
  have hfree : ∀ {id d}, id ≠ c.id → cat.types.get? id = some d → d.slug = c.slug →
      d.environment = c.environment → False := by
    intro id d hid hd hsame henvironment
    exact hid ((hcat.filed id d hd).symm.trans (checkSlug_eq_ok.1 hslug id d hd hsame henvironment))
  constructor
  case filed =>
    intro id d hd
    rcases hstored hd with ⟨rfl, rfl⟩ | ⟨-, hd⟩
    · rfl
    · exact hcat.filed id d hd
  case normal =>
    intro id d hd
    rcases hstored hd with ⟨-, rfl⟩ | ⟨-, hd⟩
    · exact hc
    · exact hcat.normal id d hd
  case distinct =>
    intro id id' d d' hd hd' hsame henvironment
    rcases hstored hd with ⟨hid, heq⟩ | ⟨hid, hold⟩
    · rcases hstored hd' with ⟨hid', -⟩ | ⟨hid', hold'⟩
      · exact hid.trans hid'.symm
      · rw [heq] at hsame henvironment
        exact (hfree hid' hold' hsame.symm henvironment.symm).elim
    · rcases hstored hd' with ⟨-, heq'⟩ | ⟨-, hold'⟩
      · rw [heq'] at hsame henvironment
        exact (hfree hid hold hsame henvironment).elim
      · exact hcat.distinct id id' d d' hold hold' hsame henvironment

theorem create (hcat : cat.Orderly) (h : cat.create ctx now fresh c = .ok (d, cat')) :
    cat'.Orderly := by
  obtain ⟨⟨new, hnew, rfl⟩, -, hslug, rfl⟩ := create_eq_ok h
  have hnormal := normal_of_normalized hnew
  exact hcat.write ⟨hnormal.slug, hnormal.environment, hnormal.named⟩ hslug

theorem update (hcat : cat.Orderly) (h : cat.update ctx now c = .ok (d, cat')) :
    cat'.Orderly := by
  obtain ⟨new, current, hnew, -, rfl, hslug, rfl⟩ := update_eq_ok h
  have hnormal := normal_of_normalized hnew
  exact hcat.write ⟨hnormal.slug, hnormal.environment, hnormal.named⟩ hslug

theorem delete (hcat : cat.Orderly) (h : cat.delete ctx id = .ok (d, cat')) : cat'.Orderly := by
  obtain ⟨-, rfl⟩ := erase_of_delete h
  have hstored : ∀ {id' c}, (cat.types.erase id).get? id' = some c → cat.types.get? id' = some c := by
    intro id' c hc
    rw [Dict.get?_erase] at hc
    split at hc
    · cases hc
    · exact hc
  exact ⟨fun _ _ hc => hcat.filed _ _ (hstored hc), fun _ _ hc => hcat.normal _ _ (hstored hc),
    fun _ _ _ _ hc hc' => hcat.distinct _ _ _ _ (hstored hc) (hstored hc')⟩

end Orderly

end Catalog

end Backoffice.ContentType

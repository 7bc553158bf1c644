import Backoffice.Panel.Factory
import Backoffice.Proofs.Panel.Operations

namespace Backoffice

structure PermissionSet.Stated (s : PermissionSet) : Prop where
  view : Text.blank s.view = false
  create : Text.blank s.create = false
  edit : Text.blank s.edit = false
  delete : Text.blank s.delete = false

theorem Text.blank_append_right {s t : String} (h : blank t = false) : blank (s ++ t) = false := by
  simp only [blank, String.toList_append, List.all_append, Bool.and_eq_false_iff] at h ⊢
  exact .inr h

theorem PermissionSet.stated_ofBase (base : String) : (ofBase base).Stated where
  view := Text.blank_append_right (by decide)
  create := Text.blank_append_right (by decide)
  edit := Text.blank_append_right (by decide)
  delete := Text.blank_append_right (by decide)

theorem PermissionSet.Stated.or {fallback : PermissionSet} (h : fallback.Stated)
    (s : PermissionSet) : (s.or fallback).Stated := by
  have hpick : ∀ own {other : String}, Text.blank other = false →
      Text.blank (if Text.blank own then other else own) = false := by
    intro own other hother
    split
    · exact hother
    · exact Bool.eq_false_iff.2 (by assumption)
  exact ⟨hpick s.view h.view, hpick s.create h.create, hpick s.edit h.edit,
    hpick s.delete h.delete⟩

namespace Panel

def Builder.Stated (b : Builder) : Prop :=
  ∀ a ∈ b.actions ++ b.bulkActions, ∀ permission, a.permission = some permission →
    Text.blank permission = false

/-- How panels come about: a host builds them, or the factory does. -/
inductive Made : Panel → Prop
  | byHost {b : Builder} {p : Panel} : b.build = .ok p → b.Stated → Made p
  | byFactory {f : Factory} {runtime : Workflow.Runtime} {ctx : Context} {c : ContentType}
      {environment slug : String} {p : Panel} :
      f.buildPanel runtime ctx c environment slug = .ok p → Made p

variable {p : Panel}

theorem Builder.build_eq_ok {b : Builder} (h : b.build = .ok p) :
    p.permissions.Stated ∧ p.actions = b.actions ∧ p.bulkActions = b.bulkActions ∧
      p.authorizer = b.authorizer := by
  unfold build at h
  dsimp only at h
  generalize Text.key b.name = name at h
  obtain ⟨-, h⟩ := refuse_eq_ok.1 h
  split at h
  · obtain ⟨source, -, h⟩ := bind_eq_ok.1 h
    obtain ⟨_, -, h⟩ := bind_eq_ok.1 h
    obtain ⟨_, -, h⟩ := bind_eq_ok.1 h
    cases h
    refine ⟨?_, rfl, rfl, rfl⟩
    dsimp only
    split
    · exact (PermissionSet.stated_ofBase _).or _
    · exact PermissionSet.stated_ofBase _
  · cases h

theorem Factory.stated_permissionsFor (c : ContentType) : (permissionsFor c).Stated := by
  unfold permissionsFor
  dsimp only
  split
  · exact PermissionSet.stated_ofBase _
  · exact (PermissionSet.stated_ofBase _).or _
  · exact PermissionSet.stated_ofBase _

theorem Factory.stated_passivePermission {s : PermissionSet} (h : s.Stated) (name : String) :
    Text.blank (passivePermission s name) = false := by
  unfold passivePermission
  split
  · exact h.view
  · exact h.delete
  · exact h.create
  · exact h.edit

theorem Factory.permission_of_transition {engine : Workflow.Engine} {l : Lifecycle} {a : Action}
    (ha : a ∈ transitionActions engine l) : a.permission = none := by
  unfold transitionActions at ha
  split at ha
  · obtain ⟨name, -, rfl⟩ := List.mem_map.1 ha
    rfl
  · cases ha

theorem Factory.stated_actions {c : ContentType} {engine : Workflow.Engine} {a : Action}
    {lifecycle : Option Lifecycle} {permission : String}
    (ha : a ∈ passiveActions (permissionsFor c) ++
      (lifecycle.map (transitionActions engine)).getD [])
    (hpermission : a.permission = some permission) : Text.blank permission = false := by
  rcases List.mem_append.1 ha with ha | ha
  · obtain ⟨name, -, rfl⟩ := List.mem_map.1 ha
    cases hpermission
    exact stated_passivePermission (stated_permissionsFor c) name
  · cases lifecycle with
    | none => cases ha
    | some l =>
      rw [permission_of_transition ha] at hpermission
      cases hpermission

theorem Made.builder (h : p.Made) : ∃ b : Builder, b.build = .ok p ∧ b.Stated := by
  cases h with
  | byHost hbuild hstated => exact ⟨_, hbuild, hstated⟩
  | byFactory hbuild =>
    unfold Factory.buildPanel at hbuild
    obtain ⟨lifecycle, -, hbuild⟩ := bind_eq_ok.1 hbuild
    refine ⟨_, hbuild, fun a ha permission hpermission => ?_⟩
    rcases List.mem_append.1 ha with ha | ha
    · exact Factory.stated_actions ha hpermission
    · cases ha

end Panel

end Backoffice

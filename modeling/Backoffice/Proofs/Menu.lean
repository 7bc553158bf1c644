import Backoffice.Menu
import Backoffice.Proofs.Call
import Backoffice.Proofs.Dict

namespace Backoffice.Menu.Service

def itemsAt (s : Service) (code : String) : List Item :=
  ((s.menus.get? code).map (·.items)).getD []

def SameBut (touched : String → Item → Prop) (s t : Service) : Prop :=
  ∀ code i, ¬touched code i → (i ∈ t.itemsAt code ↔ i ∈ s.itemsAt code)

variable {touched touched' : String → Item → Prop} {s t u : Service} {ctx : Context}
  {code id : String} {m : Menu} {i j : Item}

theorem SameBut.refl (s : Service) : SameBut touched s s := fun _ _ _ => Iff.rfl

theorem SameBut.trans (hst : SameBut touched s t) (htu : SameBut touched t u) :
    SameBut touched s u :=
  fun code i h => (htu code i h).trans (hst code i h)

theorem SameBut.mono (h : SameBut touched s t) (hsub : ∀ code i, touched code i → touched' code i) :
    SameBut touched' s t :=
  fun code i hi => h code i fun htouched => hi (hsub code i htouched)

def withId (code id : String) (code' : String) (i : Item) : Prop :=
  code' = Text.key code ∧ i.id = id

theorem itemsAt_eq_of_find (h : s.find code = .ok m) : s.itemsAt (Text.key code) = m.items := by
  unfold find at h
  split at h
  · rename_i hm
    cases h
    rw [itemsAt, hm]
    rfl
  · cases h

theorem sameBut_set {items : List Item} (hm : s.find code = .ok m)
    (hitems : ∀ i, ¬touched (Text.key code) i → (i ∈ items ↔ i ∈ m.items)) :
    SameBut touched s { s with menus := s.menus.set (Text.key code) { m with items } } := by
  intro code' i hi
  rw [itemsAt, Dict.get?_set]
  split
  · rename_i h
    subst h
    rw [itemsAt_eq_of_find hm]
    exact hitems i hi
  · exact Iff.rfl

theorem sameBut_store {items : List Item} (hm : s.find code = .ok m)
    (hitems : ∀ i, ¬touched (Text.key code) i → (i ∈ items ↔ i ∈ m.items)) :
    SameBut touched s (s.store code m items) := by
  refine sameBut_set hm fun i hi => ?_
  rw [Item.sort, (List.mergeSort_perm _ _).mem_iff]
  exact hitems i hi

theorem mem_replaceFirst_of_ne (h : j.id ≠ i.id) (items : List Item) :
    j ∈ replaceFirst i items ↔ j ∈ items := by
  have hne : j ≠ i := fun heq => h (congrArg Item.id heq)
  induction items with
  | nil => rfl
  | cons k rest ih =>
    rw [replaceFirst]
    split
    · rename_i hk
      have hjk : j ≠ k := fun heq => h (heq ▸ beq_iff_eq.1 hk)
      simp [hne, hjk]
    · simp [ih]

theorem listItems_eq_ok {items : List Item} (h : s.listItems ctx code = .ok items) :
    items = s.itemsAt (Text.key code) := by
  obtain ⟨_, -, h⟩ := bind_eq_ok.1 h
  obtain ⟨m, hm, h⟩ := bind_eq_ok.1 h
  cases h
  exact (itemsAt_eq_of_find hm).symm

theorem deleteItem_sameBut (h : s.deleteItem ctx code id = .ok t) :
    SameBut (withId code id) s t := by
  obtain ⟨_, -, h⟩ := bind_eq_ok.1 h
  obtain ⟨m, hm, h⟩ := bind_eq_ok.1 h
  obtain ⟨-, h⟩ := refuse_eq_ok.1 h
  cases h
  refine sameBut_set hm fun i hi => ?_
  have hid : i.id ≠ id := fun hid => hi ⟨rfl, hid⟩
  simp [hid]

theorem dropItem_sameBut (h : s.dropItem ctx code id = .ok t) : SameBut (withId code id) s t := by
  unfold dropItem at h
  split at h
  · rename_i hdelete
    cases h
    exact deleteItem_sameBut hdelete
  · split at h
    · cases h
      exact SameBut.refl s
    · cases h

theorem createMenu_sameBut (h : s.createMenu ctx code = .ok (m, t)) :
    SameBut (fun _ _ => False) s t := by
  unfold createMenu at h
  obtain ⟨_, -, h⟩ := bind_eq_ok.1 h
  dsimp only at h
  generalize Text.key code = key at h
  obtain ⟨-, h⟩ := refuse_eq_ok.1 h
  obtain ⟨habsent, h⟩ := refuse_eq_ok.1 h
  cases h
  rw [Bool.not_eq_true, Dict.contains_eq_false_iff] at habsent
  intro code' i _
  rw [itemsAt, Dict.get?_set]
  split
  · rename_i hcode
    rw [itemsAt, hcode, habsent]
    rfl
  · exact Iff.rfl

theorem ensureMenu_sameBut (h : s.ensureMenu ctx code = .ok t) :
    SameBut (fun _ _ => False) s t := by
  unfold ensureMenu at h
  split at h
  · cases h
    exact SameBut.refl s
  · split at h
    · split at h
      · rename_i hcreate
        cases h
        exact createMenu_sameBut hcreate
      · split at h
        · cases h
          exact SameBut.refl s
        · cases h
    · cases h

theorem addItem_sameBut (h : s.addItem ctx i = .ok (j, t)) :
    j = i.withId ∧ SameBut (withId j.menuCode j.id) s t := by
  obtain ⟨_, -, h⟩ := bind_eq_ok.1 h
  obtain ⟨-, h⟩ := refuse_eq_ok.1 h
  obtain ⟨m, hm, h⟩ := bind_eq_ok.1 h
  obtain ⟨-, h⟩ := refuse_eq_ok.1 h
  cases h
  refine ⟨rfl, sameBut_store hm fun k hk => ?_⟩
  have hne : k ≠ i.withId := fun heq => hk ⟨rfl, congrArg Item.id heq⟩
  simp [hne]

theorem updateItem_sameBut (h : s.updateItem ctx i = .ok (j, t)) :
    j = i ∧ SameBut (withId i.menuCode i.id) s t := by
  obtain ⟨_, -, h⟩ := bind_eq_ok.1 h
  obtain ⟨m, hm, h⟩ := bind_eq_ok.1 h
  obtain ⟨-, h⟩ := refuse_eq_ok.1 h
  cases h
  refine ⟨rfl, sameBut_store hm fun k hk => ?_⟩
  exact mem_replaceFirst_of_ne (fun hid => hk ⟨rfl, hid⟩) m.items

end Backoffice.Menu.Service

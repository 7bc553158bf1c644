import Backoffice.Workflow.Binding

namespace Backoffice.Workflow.Binding

def Eligible (q : Query) (b : Binding) : Prop :=
  b.active ∧ (b.environment = "" ∨
    Text.key q.environment ≠ "" ∧ b.environment = Text.key q.environment)

inductive Covers (q : Query) (b : Binding) : Nat → Prop
  | contentType : Text.key q.contentType ≠ "" → b.scopeType = .contentType →
      b.scopeRef = Text.key q.contentType → Covers q b 0
  | byTrait {i t} : q.traits[i]? = some t → Text.key t ≠ "" → b.scopeType = .byTrait →
      b.scopeRef = Text.key t → Covers q b (i + 1)
  | global : b.scopeType = .global → Covers q b (q.traits.length + 1)

def Matches (q : Query) (b : Binding) : Prop :=
  Eligible q b ∧ ∃ k, Covers q b k

def Precedes (a b : Binding) : Prop :=
  (a.environment ≠ "" ∧ b.environment = "") ∨ ((a.environment = "" ↔ b.environment = "") ∧
    (a.priority < b.priority ∨ (a.priority = b.priority ∧
      (a.scopeRef < b.scopeRef ∨ (a.scopeRef = b.scopeRef ∧ a.id < b.id)))))

/-- `b` is the first of the bindings for the first place that has any. -/
def Governs (bs : List Binding) (q : Query) (b : Binding) : Prop :=
  ∃ k, (b ∈ bs ∧ Eligible q b ∧ Covers q b k) ∧
    (∀ c ∈ bs, Eligible q c → ∀ j < k, ¬Covers q c j) ∧
    ∀ c ∈ bs, Eligible q c → Covers q c k → c = b ∨ Precedes b c

instance : Std.TransCmp precedence :=
  inferInstanceAs (Std.TransCmp (compareLex (compareOn fun b => (b.environment == "").toNat)
    (compareLex (compareOn priority) (compareLex (compareOn (·.scopeType.rank))
      (compareLex (compareOn scopeRef) (compareOn id))))))

theorem toNat_empty_lt {s t : String} :
    (s == "").toNat < (t == "").toNat ↔ s ≠ "" ∧ t = "" := by
  by_cases hs : s = "" <;> by_cases ht : t = "" <;> simp [beq_eq_false_iff_ne.2, hs, ht]

theorem toNat_empty_eq {s t : String} :
    (s == "").toNat = (t == "").toNat ↔ (s = "" ↔ t = "") := by
  by_cases hs : s = "" <;> by_cases ht : t = "" <;> simp [beq_eq_false_iff_ne.2, hs, ht]

theorem compare_text_eq_lt {s t : String} : compare s t = .lt ↔ s < t :=
  compareOfLessAndEq_eq_lt

theorem precedence_eq_lt_iff {a b : Binding} (h : a.scopeType = b.scopeType) :
    precedence a b = .lt ↔ Precedes a b := by
  simp [precedence, Precedes, Ordering.then_eq_lt, Nat.compare_eq_lt, h, toNat_empty_lt,
    toNat_empty_eq, compare_text_eq_lt]

theorem id_eq_of_precedence {a b : Binding} (h : precedence a b = .eq) : a.id = b.id := by
  simp only [precedence, Ordering.then_eq_eq] at h
  exact Std.LawfulEqOrd.eq_of_compare h.2.2.2.2

theorem pairwise_inOrder (bs : List Binding) :
    (inOrder bs).Pairwise fun a b => (precedence a b).isLE := by
  apply List.pairwise_mergeSort
  · intro a b c
    exact Std.TransCmp.isLE_trans
  · intro a b
    cases h : precedence a b with
    | lt | eq => rfl
    | gt => rw [Std.OrientedCmp.lt_of_gt h]; rfl

theorem find?_of_pairwise {R : Binding → Binding → Prop} {p : Binding → Bool} {bs : List Binding}
    {b : Binding} (hbs : bs.Pairwise R) (h : bs.find? p = some b) :
    (b ∈ bs ∧ p b) ∧ ∀ c ∈ bs, p c → c = b ∨ R b c := by
  obtain ⟨hb, before, after, rfl, hbefore⟩ := List.find?_eq_some_iff_append.1 h
  refine ⟨⟨by simp, hb⟩, ?_⟩
  intro c hc hpc
  rcases List.mem_append.1 hc with hc | hc
  · have hnot := hbefore c hc
    rw [hpc] at hnot
    cases hnot
  · rcases List.mem_cons.1 hc with rfl | hc
    · exact .inl rfl
    · exact .inr ((List.pairwise_cons.1 (List.pairwise_append.1 hbs).2.1).1 c hc)

def candidates (bs : List Binding) (q : Query) : List Binding :=
  inOrder (bs.filter fun b => b.active && b.fitsEnvironment (Text.key q.environment))

theorem mem_candidates {bs : List Binding} {q : Query} {b : Binding} :
    b ∈ candidates bs q ↔ b ∈ bs ∧ Eligible q b := by
  rw [candidates, inOrder, (List.mergeSort_perm _ _).mem_iff]
  simp [fitsEnvironment, Eligible]

def isFor (t : ScopeType) (s : String) (b : Binding) : Bool :=
  Text.key s != "" && b.scopeType == t && b.scopeRef == Text.key s

theorem isFor_eq_true_iff {t : ScopeType} {s : String} {b : Binding} :
    isFor t s b = true ↔ Text.key s ≠ "" ∧ b.scopeType = t ∧ b.scopeRef = Text.key s := by
  simp [isFor, and_assoc]

theorem isFor_of_empty {t : ScopeType} {s : String} (h : Text.key s = "") :
    isFor t s = fun _ => false := by
  funext b
  simp [isFor, h]

theorem isFor_of_ne_empty {t : ScopeType} {s : String} (h : Text.key s ≠ "") :
    isFor t s = fun b => b.scopeType == t && b.scopeRef == Text.key s := by
  funext b
  rw [isFor, bne_iff_ne.2 h, Bool.true_and]

def places (q : Query) : List (Binding → Bool) :=
  isFor .contentType q.contentType ::
    (q.traits.map (isFor .byTrait) ++ [fun b => b.scopeType == .global])

theorem covers_iff {q : Query} {b : Binding} {k : Nat} :
    Covers q b k ↔ ∃ p, (places q)[k]? = some p ∧ p b = true := by
  constructor
  · intro h
    cases h with
    | contentType hkey htype href => exact ⟨_, rfl, isFor_eq_true_iff.2 ⟨hkey, htype, href⟩⟩
    | @byTrait i t hi hkey htype href =>
      refine ⟨isFor .byTrait t, ?_, isFor_eq_true_iff.2 ⟨hkey, htype, href⟩⟩
      have hmap : (q.traits.map (isFor .byTrait))[i]? = some (isFor .byTrait t) := by
        rw [List.getElem?_map, hi]
        rfl
      rw [places, List.getElem?_cons_succ, List.getElem?_append_left, hmap]
      exact (List.getElem?_eq_some_iff.1 hmap).1
    | global htype =>
      refine ⟨fun b => b.scopeType == .global, ?_, beq_iff_eq.2 htype⟩
      rw [places, List.getElem?_cons_succ, List.getElem?_append_right (by simp)]
      simp
  · rintro ⟨p, hk, hp⟩
    cases k with
    | zero =>
      obtain rfl := Option.some.inj hk
      obtain ⟨hkey, htype, href⟩ := isFor_eq_true_iff.1 hp
      exact .contentType hkey htype href
    | succ i =>
      rw [places, List.getElem?_cons_succ, List.getElem?_append] at hk
      split at hk
      · rw [List.getElem?_map, Option.map_eq_some_iff] at hk
        obtain ⟨t, ht, rfl⟩ := hk
        obtain ⟨hkey, htype, href⟩ := isFor_eq_true_iff.1 hp
        exact .byTrait ht hkey htype href
      · rename_i hge
        rw [List.length_map] at hge hk
        rw [List.getElem?_singleton] at hk
        split at hk
        · obtain rfl := Option.some.inj hk
          have hi : i = q.traits.length := by omega
          subst hi
          exact .global (beq_iff_eq.1 hp)
        · cases hk

theorem findSome?_scope (cs : List Binding) (t : ScopeType) (s : String) :
    (if Text.key s == "" then [] else [(t, Text.key s)]).findSome?
      (fun (t, ref) => cs.find? fun b => b.scopeType == t && b.scopeRef == ref) =
        cs.find? (isFor t s) := by
  by_cases hs : Text.key s = ""
  · have hnone : cs.find? (isFor t s) = none := by
      rw [isFor_of_empty hs, List.find?_eq_none]
      simp
    simp [hs, hnone]
  · rw [isFor_of_ne_empty hs]
    simp [hs]

theorem findSome?_traits (cs : List Binding) (names : List String) :
    (names.flatMap fun s =>
        if Text.key s == "" then [] else [(ScopeType.byTrait, Text.key s)]).findSome?
      (fun (t, ref) => cs.find? fun b => b.scopeType == t && b.scopeRef == ref) =
        (names.map (isFor .byTrait)).findSome? fun p => cs.find? p := by
  induction names with
  | nil => rfl
  | cons s names ih =>
    rw [List.flatMap_cons, List.findSome?_append, ih, findSome?_scope, List.map_cons,
      List.findSome?_cons]
    cases cs.find? (isFor .byTrait s) <;> rfl

theorem resolve_eq (bs : List Binding) (q : Query) :
    resolve bs q = (places q).findSome? fun p => (candidates bs q).find? p := by
  have htiers : (tiers q).findSome? (fun (t, ref) =>
      (candidates bs q).find? fun b => b.scopeType == t && b.scopeRef == ref) =
        (isFor .contentType q.contentType :: q.traits.map (isFor .byTrait)).findSome?
          fun p => (candidates bs q).find? p := by
    rw [tiers, List.findSome?_append, findSome?_scope, findSome?_traits, List.findSome?_cons]
    cases (candidates bs q).find? (isFor .contentType q.contentType) <;> rfl
  rw [places, ← List.cons_append, List.findSome?_append, ← htiers, List.findSome?_singleton]
  rfl

theorem resolve_eq_none_iff {bs : List Binding} {q : Query} :
    resolve bs q = none ↔ ∀ b ∈ bs, ¬Matches q b := by
  rw [resolve_eq, List.findSome?_eq_none_iff]
  constructor
  · rintro h b hb ⟨heligible, k, hk⟩
    obtain ⟨p, hp, hpb⟩ := covers_iff.1 hk
    have hnone := h p (List.mem_of_getElem? hp)
    exact List.find?_eq_none.1 hnone b (mem_candidates.2 ⟨hb, heligible⟩) hpb
  · intro h p hp
    rw [List.find?_eq_none]
    intro b hb hpb
    obtain ⟨k, hk⟩ := List.mem_iff_getElem?.1 hp
    obtain ⟨hb, heligible⟩ := mem_candidates.1 hb
    exact h b hb ⟨heligible, k, covers_iff.2 ⟨p, hk, hpb⟩⟩

theorem Covers.scopeType_eq {q : Query} {a b : Binding} {k : Nat} (ha : Covers q a k)
    (hb : Covers q b k) : a.scopeType = b.scopeType := by
  cases ha with
  | contentType _ htype =>
    cases hb with
    | contentType _ htype' => rw [htype, htype']
  | byTrait hi _ htype =>
    cases hb with
    | byTrait _ _ htype' => rw [htype, htype']
    | global => simp at hi
  | global htype =>
    cases hb with
    | byTrait hi => simp at hi
    | global htype' => rw [htype, htype']

def Identified (bs : List Binding) (q : Query) : Prop :=
  ∀ a ∈ bs, ∀ b ∈ bs, Matches q a → Matches q b → a.id = b.id → a = b

theorem mem_of_resolve {bs : List Binding} {q : Query} {b : Binding} (h : resolve bs q = some b) :
    b ∈ bs ∧ Eligible q b := by
  rw [resolve_eq] at h
  obtain ⟨_, _, _, -, hfind, -⟩ := List.findSome?_eq_some_iff.1 h
  exact mem_candidates.1 (List.mem_of_find?_eq_some hfind)

theorem governs_of_resolve {bs : List Binding} {q : Query} {b : Binding} (hbs : Identified bs q)
    (h : resolve bs q = some b) : Governs bs q b := by
  rw [resolve_eq] at h
  obtain ⟨before, p, after, hplaces, hfind, hbefore⟩ := List.findSome?_eq_some_iff.1 h
  have hk : (places q)[before.length]? = some p := by simp [hplaces]
  obtain ⟨⟨hmem, hpb⟩, hleast⟩ := find?_of_pairwise (pairwise_inOrder _) hfind
  obtain ⟨hb, heligible⟩ := mem_candidates.1 hmem
  have hcovers : Covers q b before.length := covers_iff.2 ⟨p, hk, hpb⟩
  refine ⟨before.length, ⟨hb, heligible, hcovers⟩, ?_, ?_⟩
  · intro c hc hceligible j hj hcj
    obtain ⟨p', hp', hpc⟩ := covers_iff.1 hcj
    rw [hplaces, List.getElem?_append_left hj] at hp'
    have hnone := hbefore p' (List.mem_of_getElem? hp')
    exact List.find?_eq_none.1 hnone c (mem_candidates.2 ⟨hc, hceligible⟩) hpc
  · intro c hc hceligible hck
    obtain ⟨p', hp', hpc⟩ := covers_iff.1 hck
    obtain rfl := Option.some.inj (hk.symm.trans hp')
    rcases hleast c (mem_candidates.2 ⟨hc, hceligible⟩) hpc with rfl | hle
    · exact .inl rfl
    · cases hcmp : precedence b c with
      | lt => exact .inr ((precedence_eq_lt_iff (hcovers.scopeType_eq hck)).1 hcmp)
      | eq =>
        have hid := (id_eq_of_precedence hcmp).symm
        exact .inl (hbs c hc b hb ⟨hceligible, _, hck⟩ ⟨heligible, _, hcovers⟩ hid)
      | gt =>
        rw [hcmp] at hle
        cases hle

theorem Governs.unique {bs : List Binding} {q : Query} {b c : Binding} (hb : Governs bs q b)
    (hc : Governs bs q c) : b = c := by
  obtain ⟨k, ⟨hbmem, hbelig, hbk⟩, hbfirst, hbleast⟩ := hb
  obtain ⟨j, ⟨hcmem, hcelig, hcj⟩, hcfirst, hcleast⟩ := hc
  have hle : k ≤ j := Nat.le_of_not_lt fun hlt => hbfirst c hcmem hcelig j hlt hcj
  have hge : j ≤ k := Nat.le_of_not_lt fun hlt => hcfirst b hbmem hbelig k hlt hbk
  obtain rfl := Nat.le_antisymm hle hge
  rcases hbleast c hcmem hcelig hcj with hcb | hbc
  · exact hcb.symm
  · rcases hcleast b hbmem hbelig hbk with hbc' | hcb
    · exact hbc'
    · have hlt := (precedence_eq_lt_iff (hbk.scopeType_eq hcj)).2 hbc
      have hgt := (precedence_eq_lt_iff (hcj.scopeType_eq hbk)).2 hcb
      exact absurd hgt (Std.OrientedCmp.not_lt_of_lt hlt)

theorem resolve_eq_some_iff {bs : List Binding} {q : Query} {b : Binding} (hbs : Identified bs q) :
    resolve bs q = some b ↔ Governs bs q b := by
  constructor
  · exact governs_of_resolve hbs
  · intro hb
    cases h : resolve bs q with
    | none =>
      obtain ⟨k, ⟨hmem, heligible, hk⟩, -⟩ := hb
      exact absurd ⟨heligible, k, hk⟩ (resolve_eq_none_iff.1 h b hmem)
    | some c => rw [(governs_of_resolve hbs h).unique hb]

theorem Governs.congr {bs bs' : List Binding} {q : Query} {b : Binding}
    (hsame : ∀ c, Matches q c → (c ∈ bs' ↔ c ∈ bs)) (h : Governs bs q b) : Governs bs' q b := by
  obtain ⟨k, ⟨hmem, heligible, hk⟩, hfirst, hleast⟩ := h
  refine ⟨k, ⟨(hsame b ⟨heligible, k, hk⟩).2 hmem, heligible, hk⟩, ?_, ?_⟩
  · intro c hc hcelig j hj hcj
    exact hfirst c ((hsame c ⟨hcelig, j, hcj⟩).1 hc) hcelig j hj hcj
  · intro c hc hcelig hck
    exact hleast c ((hsame c ⟨hcelig, k, hck⟩).1 hc) hcelig hck

theorem resolve_congr {bs bs' : List Binding} {q : Query} (hbs : Identified bs q)
    (hsame : ∀ b, Matches q b → (b ∈ bs' ↔ b ∈ bs)) : resolve bs' q = resolve bs q := by
  have hbs' : Identified bs' q := by
    intro a ha b hb hma hmb
    exact hbs a ((hsame a hma).1 ha) b ((hsame b hmb).1 hb) hma hmb
  apply Option.ext
  intro b
  rw [resolve_eq_some_iff hbs, resolve_eq_some_iff hbs']
  exact ⟨Governs.congr fun c hc => (hsame c hc).symm, Governs.congr hsame⟩

theorem identified_of_pairwise {bs : List Binding} (h : bs.Pairwise fun a b => a.id ≠ b.id)
    (q : Query) : Identified bs q := by
  have hsame : ∀ a ∈ bs, ∀ b ∈ bs, a.id = b.id → a = b := by
    apply List.Pairwise.forall_of_forall_of_flip
    · intro a _ _
      rfl
    · exact h.imp fun hne hid => absurd hid hne
    · exact h.imp fun hne hid => absurd hid.symm hne
  intro a ha b hb _ _
  exact hsame a ha b hb

theorem resolve_governs (bs : List Binding) (q : Query)
    (hbs : bs.Pairwise fun a b => a.id ≠ b.id) :
    (resolve bs q = none ↔ ∀ b ∈ bs, ¬Matches q b) ∧
      (∀ b, resolve bs q = some b ↔ Governs bs q b) ∧
      (∀ bs', bs'.Perm bs → resolve bs' q = resolve bs q) ∧
      ∀ bs', (∀ b, Matches q b → (b ∈ bs' ↔ b ∈ bs)) → resolve bs' q = resolve bs q := by
  have hids := identified_of_pairwise hbs q
  refine ⟨resolve_eq_none_iff, fun b => resolve_eq_some_iff hids, ?_, ?_⟩
  · intro bs' hperm
    exact resolve_congr hids fun b _ => hperm.mem_iff
  · intro bs' hsame
    exact resolve_congr hids hsame

/-- The binding for the environment is found before the one with the lower priority. -/
theorem resolve_governs_live :
    let site : Binding := ⟨"a", .global, "global", "w", 0, true, "", 1, ⟨0, 0⟩, ⟨0, 0⟩⟩
    let article : Binding := ⟨"b", .contentType, "article", "w", 1, true, "", 1, ⟨0, 0⟩, ⟨0, 0⟩⟩
    let live : Binding := ⟨"c", .contentType, "article", "w", 7, true, "live", 1, ⟨0, 0⟩, ⟨0, 0⟩⟩
    resolve [site, article, live] ⟨" Article", ["page"], "LIVE"⟩ = some live := by
  intro site article live
  refine ((resolve_governs _ _ (by decide)).2.1 live).2 ⟨0, ⟨?_, ?_, ?_⟩, ?_, ?_⟩
  · simp
  · exact ⟨rfl, .inr ⟨by decide, by decide⟩⟩
  · exact .contentType (by decide) rfl (by decide)
  · intro c _ _ j hj
    cases hj
  · intro c hc _ hcovers
    cases hcovers with
    | contentType _ htype =>
      simp only [List.mem_cons, List.not_mem_nil, or_false] at hc
      rcases hc with rfl | rfl | rfl
      · cases htype
      · exact .inr (.inl ⟨by decide, rfl⟩)
      · exact .inl rfl

end Backoffice.Workflow.Binding
